import Mathlib.Data.List.Perm.Subperm
import Mathlib.Logic.Function.Basic
import TrafficFeed.Proofs.Clock.Duration
import TrafficFeed.Proofs.CommandLine.LongOptions
import TrafficFeed.Proofs.Event.Body
import TrafficFeed.Settings.CommandLine

/-!
# Where settings come from

Settings are written down as one word for each option and read back from these words, whether the
command line or the environment holds them. Each setting comes from the command line, or else from
the environment, or else from the defaults, whatever the others come from. A host's program reads
them in the same way, beside what it reads of its own.
-/

namespace TrafficFeed

open TrafficFeed.Clock TrafficFeed.CommandLine TrafficFeed.CommandLine.Parser TrafficFeed.Text

namespace CommandLine.Opt

/-! ### Words of an option -/

variable {σ α : Type} {name envName default t : String} {s : σ}

lemma put_text (set : String → σ → σ) :
    (Opt.text name envName default set).put t.toUTF8 s = .ok (set t s) := by
  simp only [Opt.text, fromUTF8?_toUTF8]

lemma put_reading {read : String → Except ValueError α} {a : α} (set : α → σ → σ)
    (h : read t = .ok a) :
    (Opt.reading name envName default read set).put t.toUTF8 s = .ok (set a s) := by
  simp only [Opt.reading, fromUTF8?_toUTF8, h, Except.map]

lemma put_choice {values : List (String × α)} {a : α} (set : α → σ → σ)
    (hascii : ∀ value ∈ values, IsAscii value.1) (h : values.lookup t = some a) :
    (Opt.choice name envName default values set).put t.toUTF8 s = .ok (set a s) := by
  obtain ⟨front, back, hvalues, -⟩ := List.lookup_eq_some_iff.mp h
  have hmem : (t, a) ∈ values := by simp [hvalues]
  simp only [Opt.choice, lossyText_toUTF8 (hascii _ hmem), h]

end CommandLine.Opt

namespace Settings

variable {c e : Settings} {word : String → String}

/-! ### Words that are read as settings -/

/-- Settings that take the value of each variable from settings of their own. -/
def assemble (source : String → Settings) : Settings where
  transport := (source "FLOWTAP_TRANSPORT").transport
  endpoint := (source "FLOWTAP_ENDPOINT").endpoint
  redisUrl := (source "FLOWTAP_REDIS_URL").redisUrl
  redisList := (source "FLOWTAP_REDIS_LIST").redisList
  queueCapacity := (source "FLOWTAP_QUEUE_CAPACITY").queueCapacity
  queuePolicy := (source "FLOWTAP_QUEUE_FULL_POLICY").queuePolicy
  schema := (source "FLOWTAP_SCHEMA").schema
  cacheTtl := (source "FLOWTAP_CACHE_TTL").cacheTtl
  sweepInterval := (source "FLOWTAP_CACHE_SWEEP_INTERVAL").sweepInterval
  cacheLimit := (source "FLOWTAP_CACHE_MAX_ENTRIES").cacheLimit

/-- A word for each variable that stands for the value that the settings have. -/
structure Reads (word : String → String) (c : Settings) : Prop where
  transport : transportNames.lookup (word "FLOWTAP_TRANSPORT") = some c.transport
  endpoint : word "FLOWTAP_ENDPOINT" = c.endpoint
  redisUrl : word "FLOWTAP_REDIS_URL" = c.redisUrl
  redisList : word "FLOWTAP_REDIS_LIST" = c.redisList
  queueCapacity : readCount (word "FLOWTAP_QUEUE_CAPACITY") = .ok c.queueCapacity
  queuePolicy : policyNames.lookup (word "FLOWTAP_QUEUE_FULL_POLICY") = some c.queuePolicy
  schema : schemaNames.lookup (word "FLOWTAP_SCHEMA") = some c.schema
  cacheTtl : readDuration (word "FLOWTAP_CACHE_TTL") = .ok c.cacheTtl
  sweepInterval : readDuration (word "FLOWTAP_CACHE_SWEEP_INTERVAL") = .ok c.sweepInterval
  cacheLimit : readCount (word "FLOWTAP_CACHE_MAX_ENTRIES") = .ok c.cacheLimit

/-- An option puts the value of its variable into the settings and nothing else. -/
lemma Reads.put (h : Reads word c) {o : Opt Settings} (ho : o ∈ options)
    (source : String → Settings) : o.put (word o.envName).toUTF8 (assemble source) =
      .ok (assemble (Function.update source o.envName c)) := by
  revert o
  simp only [options, List.forall_mem_cons]
  refine ⟨?transport, ?endpoint, ?redisUrl, ?redisList, ?queueCapacity, ?queuePolicy, ?schema,
    ?cacheTtl, ?sweepInterval, ?cacheLimit, List.forall_mem_nil _⟩
  case transport => exact Opt.put_choice _ (by decide +kernel) h.transport
  case endpoint => exact h.endpoint ▸ Opt.put_text _
  case redisUrl => exact h.redisUrl ▸ Opt.put_text _
  case redisList => exact h.redisList ▸ Opt.put_text _
  case queueCapacity => exact Opt.put_reading _ h.queueCapacity
  case queuePolicy => exact Opt.put_choice _ (by decide +kernel) h.queuePolicy
  case schema => exact Opt.put_choice _ (by decide +kernel) h.schema
  case cacheTtl => exact Opt.put_reading _ h.cacheTtl
  case sweepInterval => exact Opt.put_reading _ h.sweepInterval
  case cacheLimit => exact Opt.put_reading _ h.cacheLimit

/-! ### Written settings -/

/-- Settings whose numbers have 64 bits, as have the seconds of their durations. -/
structure Fits (c : Settings) : Prop where
  queueCapacity : c.queueCapacity < UInt64.size
  cacheTtl : c.cacheTtl < UInt64.size * Duration.second
  sweepInterval : c.sweepInterval < UInt64.size * Duration.second
  cacheLimit : c.cacheLimit < UInt64.size

/-- The word of a variable in settings that are written down. -/
def written (c : Settings) (v : String) : String := (c.toEnvironment.lookup v).getD ""

lemma readCount_toString {n : Nat} (h : n < UInt64.size) : readCount (toString n) = .ok n := by
  rw [readCount, readNumeral_toString h]
  rfl

lemma readDuration_durationWord {ns : Nat} (h : ns < UInt64.size * Duration.second) :
    readDuration (durationWord ns) = .ok ns := by
  rw [readDuration, Duration.parse_durationWord h]
  rfl

lemma lookup_nameOf_transport (k : TransportKind) :
    transportNames.lookup (nameOf transportNames k) = some k := by cases k <;> rfl

lemma lookup_nameOf_policy (k : Queue.Policy) :
    policyNames.lookup (nameOf policyNames k) = some k := by cases k <;> rfl

lemma lookup_nameOf_schema (k : Schema) :
    schemaNames.lookup (nameOf schemaNames k) = some k := by cases k <;> rfl

/-- Written settings are read back. -/
lemma Fits.reads (hc : c.Fits) : Reads c.written c where
  transport := lookup_nameOf_transport c.transport
  endpoint := rfl
  redisUrl := rfl
  redisList := rfl
  queueCapacity := readCount_toString hc.queueCapacity
  queuePolicy := lookup_nameOf_policy c.queuePolicy
  schema := lookup_nameOf_schema c.schema
  cacheTtl := readDuration_durationWord hc.cacheTtl
  sweepInterval := readDuration_durationWord hc.sweepInterval
  cacheLimit := readCount_toString hc.cacheLimit

/-! ### Default words -/

/-- The word that the option of a variable has as its default. -/
def defaultWord (v : String) : String :=
  ((options.find? (·.envName = v)).bind (·.default?)).getD ""

lemma default?_eq {o : Opt Settings} (ho : o ∈ options) :
    o.default? = some (defaultWord o.envName) := by
  revert o
  simp only [options, List.forall_mem_cons]
  exact ⟨rfl, rfl, rfl, rfl, rfl, rfl, rfl, rfl, rfl, rfl, List.forall_mem_nil _⟩

lemma reads_default : Reads defaultWord default where
  transport := rfl
  endpoint := rfl
  redisUrl := rfl
  redisList := rfl
  queueCapacity := rfl
  queuePolicy := rfl
  schema := rfl
  cacheTtl := rfl
  sweepInterval := rfl
  cacheLimit := rfl

/-! ### Sources -/

lemma nodup_names : (options.map (·.name)).Nodup := by decide +kernel

lemma nodup_envNames : (options.map (·.envName)).Nodup := by decide +kernel

lemma wellNamed (name : String) : (program name).WellNamed where
  nodup := nodup_names
  isName := show ∀ o ∈ options, IsName o.name by decide +kernel

lemma assemble_congr {f g : String → Settings} (h : ∀ o ∈ options, f o.envName = g o.envName) :
    assemble f = assemble g := by
  simp only [options, List.forall_mem_cons] at h
  simp only [Opt.text, Opt.choice, Opt.reading] at h
  simp [assemble, h]

section Sources

variable {word' : String → String} {given os : List (Opt Settings)}
  {environment : String → Option Word} {v : String}

/-- Options are told apart by their names, and by their variables. -/
lemma key_mem_iff {key : Opt Settings → String} (hkey : (options.map key).Nodup)
    (hgiven : given ⊆ options) {o : Opt Settings} (ho : o ∈ options) :
    key o ∈ given.map key ↔ o ∈ given := by
  constructor
  · intro h
    obtain ⟨other, hother, hsame⟩ := List.mem_map.mp h
    rwa [← List.inj_on_of_nodup_map hkey (hgiven hother) ho hsame]
  · exact List.mem_map_of_mem

/-- Some options, each with its word. -/
def assignments (word : String → String) (given : List (Opt Settings)) :
    List (Assignment Settings) := given.map fun o => ⟨o, word o.envName⟩

/-- The words of a command line that gives some options. -/
def arguments (word : String → String) (given : List (Opt Settings)) : List Word :=
  (assignments word given).map Assignment.word

lemma names_assignments (word : String → String) (given : List (Opt Settings)) :
    (assignments word given).map (·.name) = given.map (·.name) :=
  List.map_map ..

lemma admits_assignments (hgiven : given ⊆ options) (hnodup : given.Nodup) (name : String) :
    (program name).Admits (assignments word given) where
  mem a ha := by
    obtain ⟨o, ho, rfl⟩ := List.mem_map.mp ha
    exact hgiven ho
  nodup := by
    rw [names_assignments]
    exact hnodup.map_on fun o ho other hother =>
      List.inj_on_of_nodup_map nodup_names (hgiven ho) (hgiven hother)

lemma foldlM_assignments (hc : Reads word c) (hgiven : given ⊆ options)
    (source : String → Settings) :
    (assignments word given).foldlM Assignment.put (assemble source) =
      .ok (assemble fun v => if v ∈ given.map (·.envName) then c else source v) := by
  rw [assignments, List.foldlM_map]
  induction given generalizing source with
  | nil => simp [pure, Except.pure]
  | cons o given ih =>
    obtain ⟨ho, hrest⟩ := List.cons_subset.mp hgiven
    have hput : Assignment.put (assemble source) ⟨o, word o.envName⟩ =
        .ok (assemble (Function.update source o.envName c)) :=
      congrArg (Except.mapError _) (hc.put ho source)
    have hsource : (fun v => if v ∈ given.map (·.envName) then c
          else Function.update source o.envName c v) =
        fun v => if v ∈ (o :: given).map (·.envName) then c else source v := by
      funext v
      by_cases hv : v = o.envName <;> simp [hv]
    rw [List.foldlM_cons, hput, ← hsource]
    exact ih hrest _

/-- An environment that holds such words, or nothing, for the options that are not given. -/
def Supplies (environment : String → Option Word) (word : String → String)
    (given : List (Opt Settings)) : Prop :=
  ∀ o ∈ options, o ∉ given →
    environment o.envName = none ∨ environment o.envName = some (word o.envName).toUTF8

/-- What a variable stands for: what the environment says, or else the default. -/
def fallback (environment : String → Option Word) (e : Settings) (v : String) : Settings :=
  if (environment v).isSome then e else default

/-- An option that is not given takes the value of its variable, or else its default. -/
lemma fill_assemble (he : Reads word e) (hgiven : given ⊆ options)
    (henvironment : Supplies environment word given) {o : Opt Settings} (ho : o ∈ options)
    (source : String → Settings) :
    fill environment (given.map (·.name)) (assemble source) o =
      .ok (assemble (if o.envName ∈ given.map (·.envName) then source
        else Function.update source o.envName (fallback environment e o.envName))) := by
  by_cases hmem : o ∈ given
  · have hcontains : (given.map (·.name)).contains o.name = true :=
      List.contains_iff_mem.mpr (List.mem_map_of_mem hmem)
    rw [fill, standIn?, if_pos hcontains, if_pos (List.mem_map_of_mem hmem)]
  · have hcontains : ¬ (given.map (·.name)).contains o.name = true := by
      rw [List.contains_iff_mem, key_mem_iff nodup_names hgiven ho]
      exact hmem
    rw [fill, standIn?, if_neg hcontains, default?_eq ho,
      if_neg (mt (key_mem_iff nodup_envNames hgiven ho).mp hmem), fallback]
    rcases henvironment o ho hmem with hnone | hsome
    · rw [hnone]
      exact congrArg (Except.mapError _) (reads_default.put ho source)
    · rw [hsome]
      exact congrArg (Except.mapError _) (he.put ho source)

lemma foldlM_fill (he : Reads word e) (hgiven : given ⊆ options)
    (henvironment : Supplies environment word given) (hos : os ⊆ options)
    (source : String → Settings) :
    os.foldlM (fill environment (given.map (·.name))) (assemble source) =
      .ok (assemble fun v => if v ∈ os.map (·.envName) ∧ v ∉ given.map (·.envName) then
        fallback environment e v else source v) := by
  induction os generalizing source with
  | nil => simp [pure, Except.pure]
  | cons o os ih =>
    obtain ⟨ho, hrest⟩ := List.cons_subset.mp hos
    have hsource : (fun v => if v ∈ os.map (·.envName) ∧ v ∉ given.map (·.envName) then
            fallback environment e v
          else (if o.envName ∈ given.map (·.envName) then source
            else Function.update source o.envName (fallback environment e o.envName)) v) =
        fun v => if v ∈ (o :: os).map (·.envName) ∧ v ∉ given.map (·.envName) then
          fallback environment e v else source v := by
      funext v
      by_cases hv : v = o.envName
      · subst hv
        by_cases hmem : o.envName ∈ given.map (·.envName) <;> simp [hmem]
      · by_cases hmem : o.envName ∈ given.map (·.envName) <;> simp [hmem, hv]
    rw [List.foldlM_cons, fill_assemble he hgiven henvironment ho, ← hsource]
    exact ih hrest _

/-- Every setting comes from the command line, or else from the environment, or else from the
defaults, whatever it was at the start. -/
theorem parse_arguments (hc : Reads word c) (he : Reads word' e) (hgiven : given ⊆ options)
    (hnodup : given.Nodup) (henvironment : Supplies environment word' given) (name : String)
    (start : Settings) :
    (program name).parse start (arguments word given) environment =
      .ok (assemble fun v => if v ∈ given.map (·.envName) then c
        else if (environment v).isSome then e else default) := by
  calc (program name).parse start (arguments word given) environment
    _ = (assignments word given).foldlM Assignment.put start >>=
          options.foldlM (fill environment (given.map (·.name))) := by
      rw [← names_assignments word]
      exact Program.parse_longWords (wellNamed name) (admits_assignments hgiven hnodup name) start
        environment
    _ = options.foldlM (fill environment (given.map (·.name)))
          (assemble fun v => if v ∈ given.map (·.envName) then c else start) :=
      congrArg (· >>= _) (foldlM_assignments hc hgiven fun _ => start)
    _ = .ok (assemble fun v =>
          if v ∈ options.map (·.envName) ∧ v ∉ given.map (·.envName) then fallback environment e v
          else if v ∈ given.map (·.envName) then c else start) :=
      foldlM_fill he hgiven henvironment (List.Subset.refl options) _
    _ = .ok (assemble fun v => if v ∈ given.map (·.envName) then c
          else if (environment v).isSome then e else default) := by
      refine congrArg Except.ok (assemble_congr fun o ho => ?_)
      have hknown : o.envName ∈ options.map (·.envName) := List.mem_map_of_mem ho
      by_cases hmem : o.envName ∈ given.map (·.envName)
      · rw [if_neg fun h => h.2 hmem, if_pos hmem, if_pos hmem]
      · rw [if_pos ⟨hknown, hmem⟩, if_neg hmem, fallback]

/-- An environment that has a word for every variable decides them all. -/
theorem parse_environment (hc : Reads word c)
    (henvironment : ∀ o ∈ options, environment o.envName = some (word o.envName).toUTF8)
    (name : String) (start : Settings) : (program name).parse start [] environment = .ok c := by
  have hparse := parse_arguments hc hc (List.nil_subset _) .nil
    (fun o ho _ => .inr (henvironment o ho)) name start
  refine hparse.trans (congrArg Except.ok (assemble_congr (g := fun _ => c) fun o ho => ?_))
  simp [henvironment o ho]

/-- An environment that has at most the default words leaves the defaults. -/
theorem parse_default (henvironment : Supplies environment defaultWord []) (name : String)
    (start : Settings) : (program name).parse start [] environment = .ok default := by
  have hparse := parse_arguments reads_default reads_default (List.nil_subset _) .nil henvironment
    name start
  refine hparse.trans (congrArg Except.ok (assemble_congr (g := fun _ => default) fun o ho => ?_))
  simp

lemma ofEnvironment_eq (h : readEnvironment environment = .ok c) :
    ofEnvironment environment = c.validate >>= fun _ => .ok c := by
  rw [ofEnvironment, h]
  rfl

lemma error_of_validate_ne (h : c.validate ≠ .ok ()) :
    ∃ details, c.validate = .error (.config details) := by
  unfold validate at h ⊢
  cases hfault : c.fault? with
  | none => simp [hfault] at h
  | some details => exact ⟨details, rfl⟩

end Sources

/-- Settings are read back from the words that they are written down as: from the environment alone,
where those are refused that a pipeline cannot run with, and from a command line in any order,
whatever the environment holds. Each setting comes from the command line, or else from the
environment, or else from the defaults; these are what the default words of the options stand for.
And a host's program reads of its words, in whatever order they come, the settings that are read
alone beside what the host reads alone. -/
theorem read_written (hc : c.Fits) :
    (∀ environment : String → Option Word,
      (∀ o ∈ options, environment o.envName = some (c.written o.envName).toUTF8) →
      (c.validate = .ok () → ofEnvironment environment = .ok c) ∧
      (c.validate ≠ .ok () → ∃ details, ofEnvironment environment = .error (.config details))) ∧
    (∀ name start environment given, given.Perm options →
      (program name).parse start (arguments c.written given) environment = .ok c) ∧
    (∀ e : Settings, e.Fits → ∀ name start environment given, given.Nodup → given ⊆ options →
      Supplies environment e.written given →
      (program name).parse start (arguments c.written given) environment =
        .ok (assemble fun v => if v ∈ given.map (·.envName) then c
          else if (environment v).isSome then e else default)) ∧
    (∀ name start environment, Supplies environment defaultWord [] →
      (program name).parse start [] environment = .ok default) ∧
    ∀ (η : Type) (host : Program η) (as : List (Assignment Settings ⊕ Assignment η))
      (environment : String → Option Word) (start s : Settings) (own own' : η),
      (hosted host).WellNamed →
      (program host.name).Admits (as.filterMap Sum.getLeft?) →
      host.Admits (as.filterMap Sum.getRight?) →
      (program host.name).parse start ((as.filterMap Sum.getLeft?).map Assignment.word)
        environment = .ok s →
      host.parse own ((as.filterMap Sum.getRight?).map Assignment.word) environment = .ok own' →
      (hosted host).parse (start, own) (as.map (Sum.elim Assignment.word Assignment.word))
        environment = .ok (s, own') := by
  refine ⟨fun environment henvironment => ?_, fun name start environment given hperm => ?_,
    fun e he name start environment given hnodup hgiven henvironment =>
      parse_arguments hc.reads he.reads hgiven hnodup henvironment name start,
    fun name start environment henvironment => parse_default henvironment name start,
    fun η host as environment start s own own' hwell hpart hhost hs howned =>
      Program.parse_beside hwell hpart hhost hs howned⟩
  · have hread := ofEnvironment_eq (parse_environment hc.reads henvironment embeddedName blank)
    constructor
    · intro hvalid
      rw [hread, hvalid]
      rfl
    · intro hinvalid
      obtain ⟨details, herror⟩ := error_of_validate_ne hinvalid
      exact ⟨details, by rw [hread, herror]; rfl⟩
  · have hall : ∀ o ∈ options, o ∈ given := fun o ho => hperm.mem_iff.mpr ho
    have hnodup : given.Nodup := hperm.nodup_iff.mpr (.of_map _ nodup_names)
    have hnone : Supplies environment c.written given := fun o ho hnot => absurd (hall o ho) hnot
    have hparse := parse_arguments hc.reads hc.reads hperm.subset hnodup hnone name start
    refine hparse.trans (congrArg Except.ok (assemble_congr (g := fun _ => c) fun o ho => ?_))
    exact if_pos (List.mem_map_of_mem (hall o ho))

/-- Settings with the largest numbers, and an empty text, which a host takes beside an address. -/
theorem read_written_of_largest :
    ∃ c : Settings, c.queueCapacity = 18446744073709551615 ∧
      c.cacheTtl = 18446744073709551615999999999 ∧ c.endpoint = "" ∧ c.Fits ∧
      c.validate ≠ .ok () ∧
      (∃ details, ofEnvironment (fun v => some (c.written v).toUTF8) = .error (.config details)) ∧
      (program "host").parse default (arguments c.written options.reverse)
        (fun _ => some "?".toUTF8) = .ok c ∧
      let address : Opt String := .text "listen" "HOST_LISTEN" "127.0.0.1:80" fun t _ => t
      (hosted ⟨"host", [address], true⟩).parse (blank, "")
        (longWord "listen" "0.0.0.0:8080" :: arguments c.written options.reverse)
        (fun _ => some "?".toUTF8) = .ok (c, "0.0.0.0:8080") := by
  let c : Settings := { default with
    endpoint := "", queueCapacity := 18446744073709551615,
    cacheTtl := 18446744073709551615999999999 }
  have hc : c.Fits := by constructor <;> decide
  have hinvalid : c.validate ≠ .ok () := by
    rw [Ne, validate_eq_ok_iff]
    decide +kernel
  obtain ⟨henvironment, harguments, -, -, hhosted⟩ := read_written hc
  let address : Opt String := .text "listen" "HOST_LISTEN" "127.0.0.1:80" fun t _ => t
  let as : List (Assignment Settings ⊕ Assignment String) :=
    .inr ⟨address, "0.0.0.0:8080"⟩ :: (assignments c.written options.reverse).map .inl
  have hleft : as.filterMap Sum.getLeft? = assignments c.written options.reverse := by
    change ((assignments c.written options.reverse).map Sum.inl).filterMap Sum.getLeft? = _
    simp [Function.comp_def]
  have hright : as.filterMap Sum.getRight? = [⟨address, "0.0.0.0:8080"⟩] := by simp [as]
  have hwords : as.map (Sum.elim Assignment.word Assignment.word) =
      longWord "listen" "0.0.0.0:8080" :: arguments c.written options.reverse :=
    congrArg (List.cons _) (List.map_map ..)
  have hread := hhosted String ⟨"host", [address], true⟩ as (fun _ => some "?".toUTF8) blank c ""
    "0.0.0.0:8080" ⟨by decide +kernel, by decide +kernel⟩
  rw [hleft, hright, hwords] at hread
  have hboth := hread
    (admits_assignments (List.reverse_subset.mpr (List.Subset.refl _))
      (List.nodup_reverse.mpr (.of_map _ nodup_names)) _)
    ⟨by simp, by simp⟩ (harguments _ _ _ _ (List.reverse_perm _)) (by decide +kernel)
  exact ⟨c, rfl, rfl, rfl, hc, hinvalid, (henvironment _ fun _ _ => rfl).2 hinvalid,
    harguments _ _ _ _ (List.reverse_perm _), hboth⟩

end Settings

end TrafficFeed
