import Mathlib.Logic.Relation
import TrafficFeed.Proofs.Event.Discretion

/-!
# Virtual hosts

The virtual host of a request is the first authority among its headers, or else the first host
there, or else the host of the target. So it outlasts every edit of the headers that leaves alone
which of these entries come first, and with an authority nothing else counts.
-/

namespace TrafficFeed.Http

open TrafficFeed.Text

namespace Headers

/-- No entry stands under a name, in whatever letters. -/
def Lacks (hs : Headers) (name : String) : Prop := ∀ e ∈ hs.entries, sameLetters e.1 name = false

/-- The list without the entries under a name. -/
def without (name : String) (hs : Headers) : Headers :=
  ⟨hs.entries.filter fun e => !sameLetters e.1 name⟩

/-- An edit of a header list by one entry. -/
inductive Edit : Headers → Headers → Prop where
  /-- An entry under another name than `host` and `:authority` is added anywhere. -/
  | insert (before after : List (String × String)) (name value : String)
      (hhost : sameLetters name "host" = false)
      (hauthority : sameLetters name ":authority" = false) :
      Edit ⟨before ++ after⟩ ⟨before ++ (name, value) :: after⟩
  /-- An entry is moved behind entries under other names. -/
  | move (before between after : List (String × String)) (name value : String)
      (hbetween : ∀ e ∈ between, sameLetters e.1 name = false) :
      Edit ⟨before ++ (name, value) :: (between ++ after)⟩
        ⟨before ++ (between ++ (name, value) :: after)⟩
  /-- An entry is added anywhere behind one under the same name. -/
  | further (before after : List (String × String)) (name value : String) (e : String × String)
      (he : e ∈ before) (hname : sameLetters e.1 name = true) :
      Edit ⟨before ++ after⟩ ⟨before ++ (name, value) :: after⟩
  /-- Letters of a name change their case. -/
  | recase (before after : List (String × String)) (name name' value : String)
      (hname : sameLetters name name' = true) :
      Edit ⟨before ++ (name, value) :: after⟩ ⟨before ++ (name', value) :: after⟩

variable {hs hs' : Headers} {name other : String}

/-! ### Looking up -/

lemma get?_eq_none_iff : hs.get? name = none ↔ hs.Lacks name := by
  simp only [get?, Option.map_eq_none_iff, List.find?_eq_none, Lacks, Bool.not_eq_true]

lemma get?_append (es fs : List (String × String)) :
    get? ⟨es ++ fs⟩ name = (get? ⟨es⟩ name).or (get? ⟨fs⟩ name) := by
  simp [get?, List.find?_append, Option.map_or]

lemma sameLetters_congr {a b : String} (h : sameLetters a b = true) (c : String) :
    sameLetters a c = sameLetters b c := by
  rw [sameLetters, sameLetters, sameLetters_iff.mp h]

lemma get?_without (h : sameLetters other name = false) :
    (hs.without name).get? other = hs.get? other := by
  have hfound : (fun e : String × String => decide
      ((!sameLetters e.1 name) = true ∧ sameLetters e.1 other = true)) =
        fun e => sameLetters e.1 other := by
    funext e
    cases he : sameLetters e.1 other with
    | false => simp
    | true => simp [sameLetters_congr he, h]
  rw [get?, get?, without, List.find?_filter, hfound]

/-- An edit does not change what is first under the two names that a virtual host is looked up
under. -/
lemma Edit.get?_eq (h : Edit hs hs') (hname : name = "host" ∨ name = ":authority") :
    hs.get? name = hs'.get? name := by
  cases h with
  | insert before after added value hhost hauthority =>
    have hadded : sameLetters added name = false := by
      rcases hname with rfl | rfl
      · exact hhost
      · exact hauthority
    simp [get?_append, get?_cons, hadded]
  | move before between after moved value hbetween =>
    cases hmoved : sameLetters moved name with
    | false => simp [get?_append, get?_cons, hmoved]
    | true =>
      have hnone : get? ⟨between⟩ name = none := by
        rw [get?_eq_none_iff]
        intro e he
        have hne := hbetween e he
        rw [sameLetters, sameLetters_iff.mp hmoved] at hne
        exact hne
      simp [get?_append, get?_cons, hmoved, hnone]
  | further before after added value e he hsame =>
    cases hadded : sameLetters added name with
    | false => simp [get?_append, get?_cons, hadded]
    | true =>
      rw [← sameLetters_congr hsame] at hadded
      have hsome : get? ⟨before⟩ name ≠ none := by
        rw [Ne, get?_eq_none_iff]
        intro hlacks
        rw [hlacks e he] at hadded
        cases hadded
      obtain ⟨first, hfirst⟩ := Option.ne_none_iff_exists'.mp hsome
      simp [get?_append, hfirst]
  | recase before after written written' value hsame =>
    simp [get?_append, get?_cons, sameLetters_congr hsame]

/-- Nor do any number of edits, made or undone. -/
lemma get?_eq_of_edits (h : Relation.EqvGen Edit hs hs')
    (hname : name = "host" ∨ name = ":authority") : hs.get? name = hs'.get? name := by
  induction h with
  | rel _ _ hedit => exact hedit.get?_eq hname
  | refl => rfl
  | symm _ _ _ ih => exact ih.symm
  | trans _ _ _ _ _ ih ih' => exact ih.trans ih'

end Headers

namespace Request

open Headers

/-- The host that a request names. -/
inductive NamesHost (r : Request) : String → Prop where
  | authority {value : String} (hfirst : r.headers.First ":authority" value) : NamesHost r value
  | header {value : String} (hauthority : r.headers.Lacks ":authority")
      (hfirst : r.headers.First "host" value) : NamesHost r value
  | target (hauthority : r.headers.Lacks ":authority") (hhost : r.headers.Lacks "host") :
      NamesHost r r.host

variable {r s : Request} {value : String}

lemma NamesHost.virtualHost_eq (h : r.NamesHost value) : r.virtualHost = value := by
  cases h with
  | authority hfirst => rw [virtualHost, get?_eq_some_iff.mpr hfirst]
  | header hauthority hfirst =>
    rw [virtualHost, get?_eq_none_iff.mpr hauthority, get?_eq_some_iff.mpr hfirst, Option.getD_some]
  | target hauthority hhost =>
    rw [virtualHost, get?_eq_none_iff.mpr hauthority, get?_eq_none_iff.mpr hhost, Option.getD_none]

/-- Every request names some host. -/
lemma exists_namesHost (r : Request) : ∃ value, r.NamesHost value := by
  cases hauthority : r.headers.get? ":authority" with
  | some value => exact ⟨value, .authority (get?_eq_some_iff.mp hauthority)⟩
  | none =>
    have hlacks := get?_eq_none_iff.mp hauthority
    cases hhost : r.headers.get? "host" with
    | some value => exact ⟨value, .header hlacks (get?_eq_some_iff.mp hhost)⟩
    | none => exact ⟨r.host, .target hlacks (get?_eq_none_iff.mp hhost)⟩

/-- The virtual host is the one host that a request names. No edits of its headers change it; and
where there is an authority, no host of the target does and no entries under `host`. -/
theorem virtualHost_iff (r : Request) :
    (∀ value, r.virtualHost = value ↔ r.NamesHost value) ∧
    (∀ s : Request, s.host = r.host → Relation.EqvGen Edit r.headers s.headers →
      s.virtualHost = r.virtualHost) ∧
    (∀ s : Request, ¬ r.headers.Lacks ":authority" →
      s.headers.without "host" = r.headers.without "host" → s.virtualHost = r.virtualHost) := by
  refine ⟨?precedence, ?edits, ?authority⟩
  case precedence =>
    intro value
    constructor
    · rintro rfl
      obtain ⟨value, hnames⟩ := exists_namesHost r
      rw [hnames.virtualHost_eq]
      exact hnames
    · exact NamesHost.virtualHost_eq
  case edits =>
    intro s hhost hedits
    rw [virtualHost, virtualHost, hhost, get?_eq_of_edits hedits (.inl rfl),
      get?_eq_of_edits hedits (.inr rfl)]
  case authority =>
    intro s hauthority hsame
    have hother : sameLetters ":authority" "host" = false := by
      simp [sameLetters, ← String.toList_inj]
    have hget : s.headers.get? ":authority" = r.headers.get? ":authority" := by
      rw [← get?_without hother, hsame, get?_without hother]
    rw [← get?_eq_none_iff] at hauthority
    obtain ⟨value, hvalue⟩ := Option.ne_none_iff_exists'.mp hauthority
    rw [virtualHost, virtualHost, hget, hvalue]

/-- An empty authority behind a host. An entry between them is taken out, the host is written in
capitals and a second one put behind it; or the host is taken out altogether, and the target has
another. -/
theorem virtualHost_iff_of_empty_authority :
    let accept := ("Accept", "*/*")
    let authority := (":Authority", "")
    let r : Request := .login [("Host", "b"), accept, authority] ""
    let s : Request := .login [("HOST", "b"), ("host", "x"), authority] ""
    let t : Request := { Request.login [accept, authority] "" with host := "z" }
    Relation.EqvGen Edit r.headers s.headers ∧ ¬ r.headers.Lacks ":authority" ∧
      t.headers.without "host" = r.headers.without "host" ∧
      r.NamesHost "" ∧ r.virtualHost = "" ∧ s.virtualHost = "" ∧ t.virtualHost = "" := by
  intro accept authority r s t
  have hcapitals : Edit r.headers ⟨[("HOST", "b"), accept, authority]⟩ :=
    .recase [] [accept, authority] "Host" "HOST" "b" (by simp [sameLetters, ← String.toList_inj])
  have haccept : Edit ⟨[("HOST", "b"), authority]⟩ ⟨[("HOST", "b"), accept, authority]⟩ :=
    .insert [("HOST", "b")] [authority] "Accept" "*/*" (by simp [sameLetters, ← String.toList_inj])
      (by simp [sameLetters, ← String.toList_inj])
  have hsecond : Edit ⟨[("HOST", "b"), authority]⟩ s.headers :=
    .further [("HOST", "b")] [authority] "host" "x" ("HOST", "b") (List.mem_singleton_self _)
      (by simp [sameLetters, ← String.toList_inj])
  have hedits : Relation.EqvGen Edit r.headers s.headers :=
    .trans _ _ _ (.rel _ _ hcapitals)
      (.trans _ _ _ (.symm _ _ (.rel _ _ haccept)) (.rel _ _ hsecond))
  have hfirst : r.headers.First ":authority" "" :=
    ⟨[("Host", "b"), accept], ":Authority", [], rfl, by simp [sameLetters, ← String.toList_inj],
      by simp [accept, sameLetters, ← String.toList_inj]⟩
  have hauthority : ¬ r.headers.Lacks ":authority" := by
    rw [← get?_eq_none_iff, get?_eq_some_iff.mpr hfirst]
    exact Option.some_ne_none _
  have hsame : t.headers.without "host" = r.headers.without "host" := by
    simp [r, t, accept, authority, login, without, sameLetters, ← String.toList_inj]
  obtain ⟨hprecedence, houtlasts, hnothing⟩ := virtualHost_iff r
  have hvalue := (hprecedence "").mpr (.authority hfirst)
  exact ⟨hedits, hauthority, hsame, .authority hfirst, hvalue,
    (houtlasts s rfl hedits).trans hvalue, (hnothing t hauthority hsame).trans hvalue⟩

end Request

end TrafficFeed.Http
