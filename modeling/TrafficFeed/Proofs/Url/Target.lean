import TrafficFeed.Proofs.Url.Authority

/-!
# Targets are read back

The parts of a target that has been read are put together to a text, in which each part is found
again. What may differ is the host: a domain name may have become too long, and within the scheme of
files the letter of a drive at the front of the path takes it away.
-/

namespace TrafficFeed.Url

open TrafficFeed.Net TrafficFeed.Text TrafficFeed.Idn

/-! ### Visible characters -/

variable {c : Char} {cs : List Char}

lemma unbroken_of_visible (h : ∀ c ∈ cs, 0x20 < c.toNat) : unbroken cs = cs :=
  unbroken_of_forall fun c hc => not_isBreak_of_visible (h c hc)

lemma trimmed_of_visible (h : ∀ c ∈ cs, 0x20 < c.toNat) : trimmed cs = cs := by
  have hdrop : ∀ {cs : List Char}, (∀ c ∈ cs, 0x20 < c.toNat) →
      cs.dropWhile (fun c => decide (c.toNat ≤ 0x20)) = cs := by
    intro cs h
    cases cs with
    | nil => rfl
    | cons c cs =>
      have := h c List.mem_cons_self
      exact List.dropWhile_cons_of_neg (by simpa using this)
  rw [trimmed, trimWhere, hdrop h, hdrop fun c hc => h c (List.mem_reverse.mp hc),
    List.reverse_reverse]

/-! ### Schemes -/

/-- A scheme as it is written: in lower case, with a letter at its front. -/
structure SchemeText (s : List Char) : Prop where
  letter : ∃ c cs, s = c :: cs ∧ isLetter c = true
  lower : ∀ c ∈ s, isSchemeChar c = true ∧ c.toLower = c

lemma toNat_of_isSchemeChar (h : isSchemeChar c = true) : c.toNat < 0x80 := by
  simp only [isSchemeChar, isLetter, Bool.or_eq_true, Bool.and_eq_true, decide_eq_true_eq,
    beq_iff_eq] at h
  rcases h with ((((h | h) | h) | rfl) | rfl) | rfl
  · exact Nat.lt_of_le_of_lt (show c.toNat ≤ 'z'.toNat from h.2) (by decide)
  · exact Nat.lt_of_le_of_lt (show c.toNat ≤ 'Z'.toNat from h.2) (by decide)
  · exact Nat.lt_of_le_of_lt (show c.toNat ≤ '9'.toNat from h.2) (by decide)
  · decide
  · decide
  · decide

lemma isSchemeChar_toLower (h : isSchemeChar c = true) :
    isSchemeChar c.toLower = true ∧ c.toLower.toLower = c.toLower ∧ 0x20 < c.toNat ∧
      (isLetter c = true → isLetter c.toLower = true) :=
  forall_below (P := fun c => isSchemeChar c = true → isSchemeChar c.toLower = true ∧
    c.toLower.toLower = c.toLower ∧ 0x20 < c.toNat ∧
      (isLetter c = true → isLetter c.toLower = true))
    (by decide) (toNat_of_isSchemeChar h) h

lemma schemeText_file : SchemeText "file".toList := by
  have hchars : "file".toList = ['f', 'i', 'l', 'e'] := by decide
  rw [hchars]
  refine ⟨⟨_, _, rfl, by decide⟩, fun c hc => ?_⟩
  simp only [List.mem_cons, List.not_mem_nil, or_false] at hc
  rcases hc with rfl | rfl | rfl | rfl <;> exact ⟨by decide, by decide⟩

lemma eq_file_of_ofScheme {scheme : String} (h : Kind.ofScheme scheme = .file) :
    scheme = "file" := by
  unfold Kind.ofScheme at h
  split at h
  · cases h
  · split at h
    · assumption
    · cases h

lemma SchemeText.visible {s : List Char} (h : SchemeText s) : ∀ c ∈ s, 0x20 < c.toNat :=
  fun c hc => (isSchemeChar_toLower (h.lower c hc).1).2.2.1

lemma SchemeText.of_takeScheme? {scheme : String} {rest : List Char}
    (h : takeScheme? cs = some (scheme, rest)) : SchemeText scheme.toList := by
  unfold takeScheme? at h
  split at h
  · cases h
  · next c cs =>
    dsimp only at h
    split at h
    · next hletter =>
      split at h
      · obtain ⟨rfl, -⟩ := Prod.mk.inj (Option.some.inj h)
        have hchar : isSchemeChar c = true := by simp [isSchemeChar, hletter]
        have hbreak := not_isBreak_of_visible (isSchemeChar_toLower hchar).2.2.1
        rw [String.toList_ofList]
        constructor
        case letter =>
          rw [List.takeWhile_cons_of_pos (by simp [hchar]), unbroken,
            List.filter_cons_of_pos (by simp [hbreak])]
          exact ⟨_, _, rfl, (isSchemeChar_toLower hchar).2.2.2 hletter⟩
        case lower =>
          intro _ hlower
          obtain ⟨d, hd, rfl⟩ := List.mem_map.mp hlower
          obtain ⟨hmem, hunbroken⟩ := List.mem_filter.mp hd
          have hbelongs := List.all_eq_true.mp List.all_takeWhile d hmem
          rw [Bool.not_eq_true'] at hunbroken
          rw [hunbroken, Bool.or_false] at hbelongs
          exact ⟨(isSchemeChar_toLower hbelongs).1, (isSchemeChar_toLower hbelongs).2.1⟩
      · cases h
    · cases h

/-- A scheme is taken from the front of a text. -/
lemma SchemeText.takeScheme? {s : List Char} (h : SchemeText s) (rest : List Char) :
    takeScheme? (s ++ ':' :: rest) = some (String.ofList s, rest) := by
  obtain ⟨c, cs, rfl, hletter⟩ := h.letter
  have hall : ∀ d ∈ c :: cs, (isSchemeChar d || isBreak d) = true :=
    fun d hd => by simp [(h.lower d hd).1]
  have hlower : (c :: cs).map Char.toLower = c :: cs :=
    List.map_congr_left (fun d hd => (h.lower d hd).2) |>.trans (List.map_id _)
  have hcolon : (isSchemeChar ':' || isBreak ':') = false := by decide
  have htake : (c :: cs ++ ':' :: rest).takeWhile (fun d => isSchemeChar d || isBreak d) =
      c :: cs := by
    rw [List.takeWhile_append_of_pos hall, List.takeWhile_cons_of_neg (by simp [hcolon]),
      List.append_nil]
  have hdrop : (c :: cs ++ ':' :: rest).dropWhile (fun d => isSchemeChar d || isBreak d) =
      ':' :: rest := by
    rw [List.dropWhile_append_of_pos hall, List.dropWhile_cons_of_neg (by simp [hcolon])]
  rw [List.cons_append] at htake hdrop ⊢
  simp only [Url.takeScheme?, hletter, if_true, hdrop, htake, unbroken_of_visible h.visible, hlower]

/-! ### Queries -/

/-- A query with its mark. -/
def queryText : Option String → List Char
  | none => []
  | some query => '?' :: query.toList

/-- The set of what may not stand in a query. -/
def querySetOf (kind : Kind) : Char → Bool :=
  if kind.isSpecial then specialQuerySet else querySet

/-- A query that has been read. -/
def CleanQuery (kind : Kind) (query : Option String) : Prop :=
  ∀ q ∈ query, ∀ c ∈ q.toList, querySetOf kind c = false ∧ c.toNat < 0x80

lemma spares_querySetOf (kind : Kind) : Spares (querySetOf kind) := by
  unfold querySetOf
  split
  · exact spares_specialQuerySet
  · exact spares_querySet

lemma visible_of_querySetOf {kind : Kind} (h : querySetOf kind c = false) :
    0x20 < c.toNat ∧ c ≠ '#' := by
  unfold querySetOf at h
  split at h
  · exact visible_of_querySet (Bool.or_eq_false_iff.mp h).1
  · exact visible_of_querySet h

lemma cleanQuery_queryText (cut : Cut) (kind : Kind) : CleanQuery kind (cut.queryText kind) := by
  intro q hq c hc
  obtain ⟨query, -, rfl⟩ := Option.map_eq_some_iff.mp hq
  rw [String.toList_ofList] at hc
  exact clean_of_mem_encode (spares_querySetOf kind) hc

lemma CleanQuery.visible {kind : Kind} {query : Option String} (h : CleanQuery kind query) :
    ∀ c ∈ queryText query, 0x20 < c.toNat ∧ c ≠ '#' := by
  intro c hc
  cases query with
  | none => exact absurd hc List.not_mem_nil
  | some q =>
    rcases List.mem_cons.mp hc with rfl | hc
    · decide
    · exact visible_of_querySetOf (h q rfl c hc).1

/-- A query is cut off, and read as itself. -/
lemma cutTail_queryText {kind : Kind} {body : List Char} {query : Option String}
    (hbody : ∀ c ∈ body, c ≠ '#' ∧ c ≠ '?') (hquery : CleanQuery kind query) :
    (cutTail (body ++ queryText query)).body = body ∧
      (cutTail (body ++ queryText query)).queryText kind = query ∧
        (cutTail (body ++ queryText query)).fragmentText = none := by
  have hhash : ∀ c ∈ body ++ queryText query, (c != '#') = true := by
    intro c hc
    rcases List.mem_append.mp hc with hc | hc
    · simpa using (hbody c hc).1
    · simpa using (hquery.visible c hc).2
  have hmark : ∀ c ∈ body, (c != '?') = true := fun c hc => by simpa using (hbody c hc).2
  have htake : (body ++ queryText query).takeWhile (· != '#') = body ++ queryText query := by
    simpa using @List.takeWhile_append_of_pos _ _ _ [] hhash
  have hdrop : (body ++ queryText query).dropWhile (· != '#') = [] := by
    simpa using @List.dropWhile_append_of_pos _ _ _ [] hhash
  simp only [cutTail, htake, hdrop, List.takeWhile_append_of_pos hmark,
    List.dropWhile_append_of_pos hmark, Cut.queryText, Cut.fragmentText]
  cases query with
  | none => simp [queryText]
  | some q =>
    have hclean := hquery q rfl
    have hunbroken : unbroken q.toList = q.toList :=
      unbroken_of_visible fun c hc => (visible_of_querySetOf (hclean c hc).1).1
    have hsame : encode (querySetOf kind) q.toList = q.toList := encode_of_clean hclean
    rw [querySetOf] at hsame
    simp [queryText, hunbroken, hsame]

/-! ### Paths -/

/-- A path that has been read: it begins with a slash, or is empty if the scheme has no rules of its
own. -/
def PathText (kind : Kind) (path : List Char) : Prop :=
  kind.isSpecial = false ∧ path = [] ∨ ∃ body segs, path = '/' :: body ∧ Body kind body segs

variable {kind : Kind} {path : List Char}

lemma PathText.starts (h : PathText kind path) : StartsPath path :=
  h.imp And.right fun ⟨body, _, hpath, _⟩ => ⟨body, hpath⟩

lemma PathText.visible (h : PathText kind path) :
    ∀ c ∈ path, 0x20 < c.toNat ∧ c ≠ '#' ∧ c ≠ '?' := by
  intro c hc
  obtain ⟨-, rfl⟩ | ⟨body, segs, rfl, hbody⟩ := h
  · exact absurd hc List.not_mem_nil
  · rcases List.mem_cons.mp hc with rfl | hc
    · decide
    · exact visible_of_pathSet (hbody.encoded c hc).1

lemma pathText_readPath (kind : Kind) (cs : List Char) : PathText kind (readPath kind cs).1 :=
  .inr (exists_body kind cs)

lemma pathText_pathAfterAuthority (kind : Kind) (cs : List Char) :
    PathText kind (pathAfterAuthority kind cs) := by
  have hroot : Body kind [] [[]] :=
    { joined := rfl
      ne_nil := List.cons_ne_nil _ _
      clean := List.forall_mem_singleton.mpr .nil
      kept := .inl (List.forall_mem_singleton.mpr .nil)
      front := fun _ h => by cases h }
  unfold pathAfterAuthority
  split
  · split
    · exact .inr ⟨[], [[]], rfl, hroot⟩
    · next hspecial => exact .inl ⟨Bool.eq_false_iff.mpr hspecial, rfl⟩
  · split
    · exact pathText_readPath kind _
    · exact pathText_readPath kind _

/-- A path is read as itself behind an authority. -/
lemma PathText.pathAfterAuthority (h : PathText kind path) (hkind : kind ≠ .file) :
    pathAfterAuthority kind path = path := by
  obtain ⟨hspecial, rfl⟩ | ⟨body, segs, rfl, hbody⟩ := h
  · simp [Url.pathAfterAuthority, hspecial]
  · have hread := hbody.readPath fun hfile => absurd hfile hkind
    rw [Url.pathAfterAuthority, if_pos (isSlash_slash kind), hread]

/-! ### Hosts of files -/

variable {t : List Char}

lemma HostText.not_isDrive (ht : HostText t) : isDrive t = false := by
  refine Bool.eq_false_iff.mpr fun hdrive => ?_
  unfold isDrive at hdrive
  split at hdrive
  · next a b =>
    simp only [Bool.and_eq_true, Bool.or_eq_true, beq_iff_eq] at hdrive
    obtain ⟨hletter, rfl | rfl⟩ := hdrive
    · have hspans := ht.spans [] (.inl rfl)
      have hcolon : a ≠ ':' := by
        rintro rfl
        exact absurd hletter (by decide)
      have hopen : a ≠ '[' := by
        rintro rfl
        exact absurd hletter (by decide)
      simp [spanHost, hcolon, hopen] at hspans
    · exact ht.whole '|' (by simp) (by decide)
  · cases hdrive

/-- A host with a path behind it. -/
lemma readFileHost_append (ht : HostText t) (hpath : StartsPath path) :
    readFileHost (t ++ path) = (readHost .file t).bind fun host => .ok
      (if host = some (.name "localhost") then (none, path) else (host, path.drop 1)) := by
  have hslash : ∀ c ∈ t, isSlash .file c = false := by
    intro c hc
    refine not_isSlash_of_notMem .file fun hmem => ?_
    exact ht.notMem_append none (List.mem_append_left _ hc) hmem
  obtain ⟨htake, hdrop⟩ := takeWhile_of_startsPath .file hslash hpath
  have hempty : t.isEmpty = false := by simpa using ht.ne_nil
  have hspecial : Kind.file.isSpecial = true := rfl
  rw [readFileHost]
  simp only [htake, hdrop, unbroken_of_visible ht.visible, ht.not_isDrive, hempty, readHost,
    hspecial, if_true, if_neg ht.ne_nil, Bool.false_eq_true, if_false]
  cases Host.ofDomain t with
  | error e => rfl
  | ok host =>
    simp [bind, Except.bind, Except.map, pure, Except.pure]

lemma exists_of_readFileHost {host : Host} (h : readFileHost cs = .ok (some host, path)) :
    (∃ text, readHost .file text = .ok (some host)) ∧ host ≠ .name "localhost" := by
  unfold readFileHost at h
  dsimp only at h
  split at h
  · cases h
  · split at h
    · cases h
    · next hempty =>
      obtain ⟨host', hdomain, h⟩ := exists_of_bind h
      split at h
      · cases h
      · next hlocal =>
        obtain rfl := Option.some.inj (Prod.mk.inj (Except.ok.inj h)).1
        refine ⟨⟨unbroken (cs.takeWhile fun c => !isSlash .file c), ?_⟩, hlocal⟩
        have hspecial : Kind.file.isSpecial = true := rfl
        rw [readHost, if_pos hspecial, if_neg (by simpa using hempty), hdomain]
        rfl

/-! ### What is read -/

/-- A target with a host that has been read. -/
structure Resolved (u : Url) (host : Host) : Prop where
  scheme : SchemeText u.scheme.toList
  authority : ∃ a, u.authority = some a ∧ a.host = some host ∧
    (Kind.ofScheme u.scheme = .file → a.port = none)
  read : ∃ text, readHost (Kind.ofScheme u.scheme) text = .ok (some host)
  notLocal : Kind.ofScheme u.scheme = .file → host ≠ .name "localhost"
  path : PathText (Kind.ofScheme u.scheme) u.path.toList
  query : CleanQuery (Kind.ofScheme u.scheme) u.query

variable {u : Url} {scheme : String} {cut : Cut} {host : Host}

lemma exists_of_hostText (h : u.hostText ≠ "") :
    ∃ a host, u.authority = some a ∧ a.host = some host := by
  unfold hostText at h
  cases hauthority : u.authority with
  | none => simp [hauthority] at h
  | some a =>
    cases hhost : a.host with
    | none => simp [hauthority, hhost] at h
    | some host => exact ⟨a, host, rfl, hhost⟩

lemma exists_of_readWithAuthority (hscheme : SchemeText scheme.toList)
    (hkind : Kind.ofScheme scheme ≠ .file) (h : readWithAuthority scheme cut cs = .ok u)
    (hhost : u.hostText ≠ "") : ∃ host, Resolved u host := by
  obtain ⟨a, host, ha, hhost⟩ := exists_of_hostText hhost
  obtain ⟨⟨authority, path⟩, hread, h⟩ := exists_of_bind h
  obtain rfl := Except.ok.inj h
  obtain rfl := Option.some.inj ha
  obtain ⟨text, htext⟩ := exists_of_readAuthority hread
  refine ⟨host, hscheme, ⟨_, rfl, hhost, fun h => absurd h hkind⟩, ⟨text, hhost ▸ htext⟩,
    fun h => absurd h hkind, ?_, cleanQuery_queryText cut _⟩
  rw [String.toList_ofList]
  exact pathText_pathAfterAuthority _ path

/-- A target of the scheme of files with a host, which stands behind two slashes. -/
lemma eq_of_readFile (h : readFile cut = .ok u) (hhost : u.hostText ≠ "") :
    ∃ host path, (∃ rest, readFileHost rest = .ok (some host, path)) ∧
      u = ⟨"file", some ⟨"", none, some host, none⟩, String.ofList (readPath .file path).1,
        cut.queryText .file, cut.fragmentText⟩ := by
  obtain ⟨a, host, ha, hhost⟩ := exists_of_hostText hhost
  unfold readFile at h
  dsimp only at h
  split at h
  · obtain rfl := Except.ok.inj h
    obtain rfl := Option.some.inj ha
    exact absurd hhost (by simp)
  · split at h
    · obtain rfl := Except.ok.inj h
      obtain rfl := Option.some.inj ha
      exact absurd hhost (by simp)
    · next rest _ =>
      obtain ⟨⟨host', path⟩, hread, h⟩ := exists_of_bind h
      obtain rfl := Except.ok.inj h
      obtain rfl := Option.some.inj ha
      obtain ⟨hkeeps, hhost⟩ : (readPath .file path).2 = true ∧ host' = some host := by
        simpa using hhost
      exact ⟨host, path, ⟨rest, by rw [hread, hhost]⟩, by simp [hkeeps, hhost]⟩

lemma exists_of_readFile (h : readFile cut = .ok u) (hhost : u.hostText ≠ "") :
    ∃ host, Resolved u host := by
  obtain ⟨host, path, ⟨rest, hread⟩, rfl⟩ := eq_of_readFile h hhost
  obtain ⟨htext, hlocal⟩ := exists_of_readFileHost hread
  have hfile : Kind.ofScheme "file" = .file := by decide
  refine ⟨host, schemeText_file, ⟨_, rfl, rfl, fun _ => rfl⟩, hfile ▸ htext, fun _ => hlocal,
    ?_, ?_⟩
  · rw [String.toList_ofList, hfile]
    exact pathText_readPath .file path
  · exact hfile ▸ cleanQuery_queryText cut .file

/-- A target that is read, if it has a host. -/
lemma exists_of_parse {target : String} (h : parse target = .ok u) (hhost : u.hostText ≠ "") :
    ∃ host, Resolved u host := by
  unfold parse at h
  split at h
  · cases h
  · next scheme rest hscheme =>
    replace hscheme := SchemeText.of_takeScheme? hscheme
    split at h
    · exact exists_of_readFile h hhost
    · next hkind => exact exists_of_readWithAuthority hscheme (by simp [hkind]) h hhost
    · next hkind =>
      unfold readOther at h
      split at h
      · exact exists_of_readWithAuthority hscheme (by simp [hkind]) h hhost
      · obtain rfl := Except.ok.inj h
        exact absurd rfl hhost
      · obtain rfl := Except.ok.inj h
        exact absurd rfl hhost

/-! ### What is read again -/

/-- Host, port and path, as they stand behind the two slashes. -/
def middleText (host : Host) (port : Option UInt16) (path : String) : List Char :=
  host.toText.toList ++ portText port ++ path.toList

/-- The text of a target from its parts. -/
def targetText (scheme : String) (host : Host) (port : Option UInt16) (path : String)
    (query : Option String) : List Char :=
  scheme.toList ++ ':' :: ('/' :: '/' :: middleText host port path ++ queryText query)

namespace Resolved

variable (h : Resolved u host) (port : Option UInt16)

include h

lemma hostText : HostText host.toText.toList :=
  have ⟨_, hread⟩ := h.read
  (readHost_toText hread).1

lemma visible_middleText :
    ∀ c ∈ middleText host port u.path, 0x20 < c.toNat ∧ c ≠ '#' ∧ c ≠ '?' := by
  intro c hc
  rcases List.mem_append.mp hc with hc | hc
  · have hsafe := h.hostText.notMem_append port hc
    have hvisible : 0x20 < c.toNat := (List.mem_append.mp hc).elim (h.hostText.visible c)
      fun hc => (mem_portText hc).1
    simp only [List.mem_cons, List.not_mem_nil, or_false, not_or] at hsafe
    exact ⟨hvisible, hsafe.2.2.2.1, hsafe.2.2.1⟩
  · exact h.path.visible c hc

lemma cutTail_middleText : ∀ c ∈ '/' :: '/' :: middleText host port u.path, c ≠ '#' ∧ c ≠ '?' := by
  intro c hc
  simp only [List.mem_cons] at hc
  rcases hc with rfl | rfl | hc
  · decide
  · decide
  · exact (h.visible_middleText port c hc).2

/-- The text behind the scheme holds no characters that do not count. -/
lemma visible : ∀ c ∈ '/' :: '/' :: middleText host port u.path ++ queryText u.query,
    0x20 < c.toNat := by
  intro c hc
  simp only [List.cons_append, List.mem_cons, List.mem_append] at hc
  rcases hc with rfl | rfl | hc | hc
  · decide
  · decide
  · exact (h.visible_middleText port c hc).1
  · exact (h.query.visible c hc).1

/-- The slashes before a host are those that the authority begins with. -/
lemma dropWhile_middleText (kind : Kind) :
    ('/' :: '/' :: middleText host port u.path).dropWhile (isSlash kind) =
      middleText host port u.path := by
  obtain ⟨c, cs, htext⟩ := List.exists_cons_of_ne_nil h.hostText.ne_nil
  have hc : isSlash kind c = false := by
    refine not_isSlash_of_notMem kind ?_
    exact h.hostText.notMem_append port (List.mem_append_left _ (htext ▸ List.mem_cons_self))
  have hslash := isSlash_slash kind
  rw [List.dropWhile_cons_of_pos hslash, List.dropWhile_cons_of_pos hslash, middleText, htext]
  exact List.dropWhile_cons_of_neg (by simp [hc])

/-- What is read of the text once its scheme has been taken. -/
lemma parse_targetText : parse (String.ofList (targetText u.scheme host port u.path u.query)) =
    let cut := cutTail ('/' :: '/' :: middleText host port u.path ++ queryText u.query)
    if Kind.ofScheme u.scheme = .file then readFile cut
    else readWithAuthority u.scheme cut (middleText host port u.path) := by
  have hrest := h.visible port
  have hall : ∀ c ∈ targetText u.scheme host port u.path u.query, 0x20 < c.toNat := by
    intro c hc
    rcases List.mem_append.mp hc with hc | hc
    · exact h.scheme.visible c hc
    · rcases List.mem_cons.mp hc with rfl | hc
      · decide
      · exact hrest c hc
  obtain ⟨hbody, -, -⟩ := cutTail_queryText (h.cutTail_middleText port) h.query
  rw [parse, String.toList_ofList, trimmed_of_visible hall, targetText, h.scheme.takeScheme?,
    String.ofList_toList]
  simp only [unbroken_of_visible hrest]
  cases Kind.ofScheme u.scheme with
  | file => rw [if_pos rfl]
  | web =>
    simp only [hbody, h.dropWhile_middleText port .web, reduceCtorEq, if_false]
  | other => simp only [readOther, hbody, reduceCtorEq, if_false]

/-- Within any scheme but that of files, a target is read as its host is. -/
lemma parse_of_ne_file (hkind : Kind.ofScheme u.scheme ≠ .file) :
    (readHost (Kind.ofScheme u.scheme) host.toText.toList = .ok (some host) →
      parse (String.ofList (targetText u.scheme host port u.path u.query)) =
        .ok ⟨u.scheme, some ⟨"", none, some host, keptPort u.scheme port⟩, u.path, u.query, none⟩) ∧
    ∀ e, readHost (Kind.ofScheme u.scheme) host.toText.toList = .error e →
      parse (String.ofList (targetText u.scheme host port u.path u.query)) = .error e := by
  obtain ⟨-, hquery, hfragment⟩ := cutTail_queryText (h.cutTail_middleText port) h.query
  have hpath := h.path.pathAfterAuthority hkind
  rw [h.parse_targetText port]
  simp only [if_neg hkind]
  rw [readWithAuthority, hquery, hfragment, middleText,
    readAuthority_eq h.hostText port h.path.starts]
  constructor
  · intro hread
    rw [readHostPort_portText h.hostText port hread]
    simp [Except.bind, bind, hpath]
  · intro e hread
    rw [readHostPort_of_error h.hostText port hread]
    rfl

end Resolved

/-- A target of the scheme of files with two slashes at the front. -/
lemma readFile_of_slashes (hbody : cut.body = '/' :: '/' :: cs) :
    readFile cut = (readFileHost cs).bind fun (host, path) =>
      .ok ⟨"file", some ⟨"", none, if (readPath .file path).2 then host else none, none⟩,
        String.ofList (readPath .file path).1, cut.queryText .file, cut.fragmentText⟩ := by
  have hslash : ∀ cs, afterSlash? ('/' :: cs) = some cs := by
    intro cs
    have hbreak : isBreak '/' = false := by decide
    simp [afterSlash?, hbreak, isSlash_slash]
  unfold readFile
  simp only [hbody, hslash]
  rfl

namespace Resolved

variable (h : Resolved u host)

include h

/-- Within the scheme of files the path decides, too, whether the host still stands. -/
lemma parse_of_file (hkind : Kind.ofScheme u.scheme = .file) {body : List Char}
    (hbody : u.path.toList = '/' :: body) :
    (readHost .file host.toText.toList = .ok (some host) →
      parse (String.ofList (targetText u.scheme host none u.path u.query)) =
        .ok ⟨"file", some ⟨"", none, if (readPath .file body).2 then some host else none, none⟩,
          String.ofList (readPath .file body).1, u.query, none⟩) ∧
    ∀ e, readHost .file host.toText.toList = .error e →
      parse (String.ofList (targetText u.scheme host none u.path u.query)) = .error e := by
  obtain ⟨hcut, hquery, hfragment⟩ := cutTail_queryText (h.cutTail_middleText none) h.query
  rw [hkind] at hquery
  have hmiddle : middleText host none u.path = host.toText.toList ++ u.path.toList := by
    simp [middleText, portText]
  have hlocal : host ≠ .name "localhost" := h.notLocal hkind
  rw [h.parse_targetText none]
  simp only [if_pos hkind]
  rw [readFile_of_slashes hcut, hquery, hfragment, hmiddle,
    readFileHost_append h.hostText h.path.starts]
  constructor
  · intro hread
    simp [hread, Except.bind, hlocal, hbody]
  · intro e hread
    rw [hread]
    rfl

end Resolved

end TrafficFeed.Url
