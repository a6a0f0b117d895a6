import Mathlib.Data.List.Nodup
import TrafficFeed.CommandLine.Parser
import TrafficFeed.Proofs.Text.Cut
import TrafficFeed.Proofs.Text.Octets

/-!
# Command lines of long options

A command line that gives options in the form `--name=value`, none of them twice, puts the values
into the settings in the order of its words. The environment and the defaults are left the other
options. A program that takes in the options of another part reads of either part what that part
reads alone, in whatever order the words of the two come.
-/

namespace TrafficFeed.CommandLine

open TrafficFeed.Text TrafficFeed.CommandLine.Parser

/-! ### Words -/

/-- An option with its value as one word. -/
def longWord (name text : String) : Word := ("--" ++ name ++ "=" ++ text).toUTF8

/-- A name of ASCII characters without an equals sign. -/
def IsName (name : String) : Prop := IsAscii name ∧ '=' ∉ name.toList

instance : DecidablePred IsName :=
  fun name => inferInstanceAs (Decidable (IsAscii name ∧ '=' ∉ name.toList))

lemma octets_longWord (name text : String) : (longWord name text).data.toList =
    hyphen :: hyphen :: (octets name ++ equals :: octets text) := by
  have hhyphens : octets "--" = [hyphen, hyphen] := by decide +kernel
  have hequals : octets "=" = [equals] := by decide +kernel
  change octets ("--" ++ name ++ "=" ++ text) = _
  simp [octets_append, hhyphens, hequals]

lemma ne_equals {name : String} (h : IsName name) {b : UInt8} (hb : b ∈ octets name) :
    b ≠ equals := by
  obtain ⟨hascii, hnot⟩ := h
  rw [octets_eq_map hascii] at hb
  obtain ⟨c, hc, rfl⟩ := List.mem_map.mp hb
  have hbound := hascii c hc
  intro heq
  have hcode : c.toNat % 256 = '='.toNat := congrArg UInt8.toNat heq
  rw [Nat.mod_eq_of_lt (by omega)] at hcode
  exact hnot (Char.toNat_inj.mp hcode ▸ hc)

lemma shape_longWord {name text : String} (h : IsName name) :
    shape (longWord name text) = .long name (some text.toUTF8) := by
  have hname : ∀ b ∈ octets name, decide (b ≠ equals) = true := fun b hb =>
    decide_eq_true (ne_equals h hb)
  have htake : (octets name ++ equals :: octets text).takeWhile (· ≠ equals) = octets name := by
    rw [List.takeWhile_append_of_pos hname]
    simp
  have hdrop : (octets name ++ equals :: octets text).dropWhile (· ≠ equals) =
      equals :: octets text := by
    rw [List.dropWhile_append_of_pos hname]
    simp
  have hlossy : lossyText ⟨(octets name).toArray⟩ = name := lossyText_toUTF8 h.1
  obtain ⟨b, rest, hrest⟩ := List.exists_cons_of_ne_nil
    (show octets name ++ equals :: octets text ≠ [] by simp)
  rw [hrest] at htake hdrop
  simp only [shape, octets_longWord, hrest, if_true, and_self, htake, hdrop, hlossy]
  rfl

/-! ### Options with their values -/

variable {σ η : Type}

/-- An option with the text that it is given. -/
structure Assignment (σ : Type) where
  option : Opt σ
  text : String

namespace Assignment

def name (a : Assignment σ) : String := a.option.name

/-- The assignment on a command line. -/
def word (a : Assignment σ) : Word := longWord a.name a.text

/-- Puts the text into the settings. -/
def put (s : σ) (a : Assignment σ) : Except Refusal σ :=
  (a.option.put a.text.toUTF8 s).mapError (.value a.option.label)

/-- An assignment to an option of either part. -/
def ofPart : Assignment σ ⊕ Assignment η → Assignment (σ × η)
  | .inl a => ⟨.ofPart (.inl a.option), a.text⟩
  | .inr a => ⟨.ofPart (.inr a.option), a.text⟩

lemma word_ofPart (a : Assignment σ ⊕ Assignment η) : (ofPart a).word = Sum.elim word word a := by
  cases a <;> rfl

end Assignment

/-- A program whose options have names that differ. -/
structure Program.WellNamed (p : Program σ) : Prop where
  nodup : (p.options.map (·.name)).Nodup
  isName : ∀ o ∈ p.options, IsName o.name

/-- Texts for options of a program, none of them twice. -/
structure Program.Admits (p : Program σ) (as : List (Assignment σ)) : Prop where
  mem : ∀ a ∈ as, a.option ∈ p.options
  nodup : (as.map (·.name)).Nodup

section

variable {p : Program σ} {as : List (Assignment σ)} {settings : σ} {given : List String}

lemma find?_option (hp : p.WellNamed) {o : Opt σ} (ho : o ∈ p.options) :
    p.options.find? (·.name = o.name) = some o := by
  have hsome : (p.options.find? (·.name = o.name)).isSome :=
    List.find?_isSome.mpr ⟨o, ho, decide_eq_true rfl⟩
  obtain ⟨found, hfound⟩ := Option.isSome_iff_exists.mp hsome
  have hsame : found.name = o.name := by simpa using List.find?_some hfound
  rw [hfound, List.inj_on_of_nodup_map hp.nodup (List.mem_of_find?_eq_some hfound) ho hsame]

lemma step_longWord (hp : p.WellNamed) {a : Assignment σ} (ha : a.option ∈ p.options)
    (hgiven : a.name ∉ given) :
    step p ⟨settings, given, none, false⟩ a.word =
      (a.put settings).map fun settings => ⟨settings, given ++ [a.name], none, false⟩ := by
  have hnew : given.contains a.option.name = false := by
    rw [Bool.eq_false_iff, Ne, List.contains_iff_mem]
    exact hgiven
  have hshape : shape a.word = .long a.option.name (some a.text.toUTF8) :=
    shape_longWord (hp.isName a.option ha)
  simp only [step, hshape, long, find?_option hp ha, settled, settle, take, hnew, Assignment.put]
  cases a.option.put a.text.toUTF8 settings <;> rfl

lemma foldlM_longWords (hp : p.WellNamed) (hmem : ∀ a ∈ as, a.option ∈ p.options)
    (hnodup : (given ++ as.map (·.name)).Nodup) :
    (as.map Assignment.word).foldlM (step p) ⟨settings, given, none, false⟩ =
      (as.foldlM Assignment.put settings).map fun settings =>
        ⟨settings, given ++ as.map (·.name), none, false⟩ := by
  induction as generalizing settings given with
  | nil => simp [Except.map, pure, Except.pure]
  | cons a as ih =>
    obtain ⟨ha, hrest⟩ := List.forall_mem_cons.mp hmem
    have hsplit : (given ++ [a.name] ++ as.map (·.name)).Nodup := by simpa using hnodup
    have hgiven : a.name ∉ given := fun hold =>
      (List.nodup_append.mp hnodup).2.2 _ hold _ List.mem_cons_self rfl
    rw [List.map_cons, List.foldlM_cons, List.foldlM_cons, step_longWord hp ha hgiven]
    cases a.put settings with
    | error r => rfl
    | ok next =>
      change (as.map _).foldlM (step p) ⟨next, given ++ [a.name], none, false⟩ = _
      rw [ih hrest hsplit]
      simp only [List.map_cons, List.append_assoc, List.singleton_append]
      rfl

/-- The values of a command line are put into the settings in their order, and the environment
and the defaults fill in the rest. -/
theorem Program.parse_longWords (hp : p.WellNamed) (has : p.Admits as) (start : σ)
    (environment : String → Option Word) :
    p.parse start (as.map Assignment.word) environment =
      as.foldlM Assignment.put start >>=
        p.options.foldlM (fill environment (as.map (·.name))) := by
  rw [Program.parse, foldlM_longWords hp has.mem (by simpa using has.nodup)]
  cases as.foldlM Assignment.put start <;> rfl

end

/-! ### Programs of two parts -/

/-- Steps that each change one of two parts change either part as its own steps do. -/
lemma foldlM_parts {α β ε : Type} {f : σ → α → Except ε σ} {g : η → β → Except ε η}
    {step : σ × η → α ⊕ β → Except ε (σ × η)} {xs : List (α ⊕ β)}
    (hleft : ∀ a, .inl a ∈ xs → ∀ s, step s (.inl a) = (f s.1 a).map (·, s.2))
    (hright : ∀ b, .inr b ∈ xs → ∀ s, step s (.inr b) = (g s.2 b).map (s.1, ·))
    {s s' : σ} {t t' : η} (hs : (xs.filterMap Sum.getLeft?).foldlM f s = .ok s')
    (ht : (xs.filterMap Sum.getRight?).foldlM g t = .ok t') :
    xs.foldlM step (s, t) = .ok (s', t') := by
  induction xs generalizing s t with
  | nil =>
    cases hs
    cases ht
    rfl
  | cons x xs ih =>
    have hrest := @ih (fun a ha => hleft a (List.mem_cons_of_mem _ ha))
      (fun b hb => hright b (List.mem_cons_of_mem _ hb))
    cases x with
    | inl a =>
      change (f s a >>= (xs.filterMap Sum.getLeft?).foldlM f) = .ok s' at hs
      rw [List.foldlM_cons, hleft a List.mem_cons_self]
      cases ha : f s a with
      | error e =>
        rw [ha] at hs
        cases hs
      | ok next =>
        rw [ha] at hs
        exact hrest hs ht
    | inr b =>
      change (g t b >>= (xs.filterMap Sum.getRight?).foldlM g) = .ok t' at ht
      rw [List.foldlM_cons, hright b List.mem_cons_self]
      cases hb : g t b with
      | error e =>
        rw [hb] at ht
        cases ht
      | ok next =>
        rw [hb] at ht
        exact hrest hs ht

section

variable {host : Program η} {part : Program σ} {as : List (Assignment σ ⊕ Assignment η)}
  {environment : String → Option Word} {given : List String}

lemma mapError_map {ε ε' α β : Type} (f : ε → ε') (g : α → β) (r : Except ε α) :
    (r.map g).mapError f = (r.mapError f).map g := by
  cases r <;> rfl

lemma fill_inl (s : σ × η) (o : Opt σ) : fill environment given s (.ofPart (.inl o)) =
    (fill environment given s.1 o).map (·, s.2) := by
  have hword : standIn? environment given (.ofPart (.inl o) : Opt (σ × η)) =
      standIn? environment given o := rfl
  rw [fill, fill, hword]
  cases standIn? environment given o with
  | none => rfl
  | some w => exact mapError_map _ _ _

lemma fill_inr (s : σ × η) (o : Opt η) : fill environment given s (.ofPart (.inr o)) =
    (fill environment given s.2 o).map (s.1, ·) := by
  have hword : standIn? environment given (.ofPart (.inr o) : Opt (σ × η)) =
      standIn? environment given o := rfl
  rw [fill, fill, hword]
  cases standIn? environment given o with
  | none => rfl
  | some w => exact mapError_map _ _ _

lemma fill_congr {given' : List String} {o : Opt σ} (h : o.name ∈ given ↔ o.name ∈ given') (s : σ) :
    fill environment given s o = fill environment given' s o := by
  have hcontains : given.contains o.name = given'.contains o.name := by
    rw [Bool.eq_iff_iff, List.contains_iff_mem, List.contains_iff_mem, h]
  rw [fill, fill, standIn?, standIn?, hcontains]

/-- The names on the command line, part by part. -/
lemma names_parts_perm (as : List (Assignment σ ⊕ Assignment η)) :
    ((as.map Assignment.ofPart).map (·.name)).Perm
      ((as.filterMap Sum.getLeft?).map (·.name) ++ (as.filterMap Sum.getRight?).map (·.name)) := by
  induction as with
  | nil => exact .nil
  | cons a as ih =>
    cases a with
    | inl a => exact ih.cons _
    | inr b => exact (ih.cons _).trans List.perm_middle.symm

namespace Program

lemma names_beside : (host.beside part).options.map (·.name) =
    host.options.map (·.name) ++ part.options.map (·.name) := by
  simp [beside, Opt.ofPart, Function.comp_def]

lemma inl_mem_beside {o : Opt σ} (ho : o ∈ part.options) :
    .ofPart (.inl o) ∈ (host.beside part).options :=
  List.mem_map_of_mem (List.mem_append_right _ (List.mem_map_of_mem ho))

lemma inr_mem_beside {o : Opt η} (ho : o ∈ host.options) :
    .ofPart (.inr o) ∈ (host.beside part).options :=
  List.mem_map_of_mem (List.mem_append_left _ (List.mem_map_of_mem ho))

/-- Where all names differ, those of one part differ from those of the other. -/
lemma WellNamed.parts (hp : (host.beside part).WellNamed) :
    part.WellNamed ∧ host.WellNamed ∧
      ∀ o ∈ part.options, ∀ o' ∈ host.options, o.name ≠ o'.name := by
  have hnodup := hp.nodup
  rw [names_beside, List.nodup_append] at hnodup
  obtain ⟨hhost, hpart, hne⟩ := hnodup
  refine ⟨⟨hpart, fun o ho => ?_⟩, ⟨hhost, fun o ho => ?_⟩, fun o ho o' ho' => ?_⟩
  · exact hp.isName _ (inl_mem_beside ho)
  · exact hp.isName _ (inr_mem_beside ho)
  · exact (hne _ (List.mem_map_of_mem ho') _ (List.mem_map_of_mem ho)).symm

/-- The words that stand in for the options of either part do so for those of the program. -/
lemma foldlM_fill_beside {given given' names : List String}
    (hpart : ∀ o ∈ part.options, o.name ∈ names ↔ o.name ∈ given)
    (hhost : ∀ o ∈ host.options, o.name ∈ names ↔ o.name ∈ given') {s s' : σ} {t t' : η}
    (hs : part.options.foldlM (fill environment given) s = .ok s')
    (ht : host.options.foldlM (fill environment given') t = .ok t') :
    (host.beside part).options.foldlM (fill environment names) (s, t) = .ok (s', t') := by
  have hleft : (host.options.map Sum.inr ++ part.options.map Sum.inl).filterMap Sum.getLeft? =
      part.options := by simp [Function.comp_def]
  have hright : (host.options.map Sum.inr ++ part.options.map Sum.inl).filterMap Sum.getRight? =
      host.options := by simp [Function.comp_def]
  rw [beside, List.foldlM_map]
  refine foldlM_parts (fun o ho s => ?_) (fun o ho s => ?_) (hleft.symm ▸ hs) (hright.symm ▸ ht)
  · rw [fill_inl, fill_congr (hpart o (by simpa using ho))]
  · rw [fill_inr, fill_congr (hhost o (by simpa using ho))]

/-- What the command line gives to either part is given to the program, each option once. -/
lemma Admits.beside (hp : (host.beside part).WellNamed)
    (hpart : part.Admits (as.filterMap Sum.getLeft?))
    (hhost : host.Admits (as.filterMap Sum.getRight?)) :
    (host.beside part).Admits (as.map Assignment.ofPart) where
  mem a ha := by
    obtain ⟨a | a, hmem, rfl⟩ := List.mem_map.mp ha
    · exact inl_mem_beside (hpart.mem a (List.mem_filterMap.mpr ⟨_, hmem, rfl⟩))
    · exact inr_mem_beside (hhost.mem a (List.mem_filterMap.mpr ⟨_, hmem, rfl⟩))
  nodup := by
    rw [(names_parts_perm as).nodup_iff, List.nodup_append]
    refine ⟨hpart.nodup, hhost.nodup, fun x hx y hy => ?_⟩
    obtain ⟨a, ha, rfl⟩ := List.mem_map.mp hx
    obtain ⟨b, hb, rfl⟩ := List.mem_map.mp hy
    exact hp.parts.2.2 _ (hpart.mem a ha) _ (hhost.mem b hb)

/-- Of the names on the command line, those of the part's options are the ones given to it. -/
lemma mem_names_of_part (hp : (host.beside part).WellNamed)
    (hhost : host.Admits (as.filterMap Sum.getRight?)) {o : Opt σ} (ho : o ∈ part.options) :
    o.name ∈ (as.map Assignment.ofPart).map (·.name) ↔
      o.name ∈ (as.filterMap Sum.getLeft?).map (·.name) := by
  rw [(names_parts_perm as).mem_iff, List.mem_append, or_iff_left_iff_imp]
  intro hmem
  obtain ⟨a, ha, hsame⟩ := List.mem_map.mp hmem
  exact absurd hsame.symm (hp.parts.2.2 o ho _ (hhost.mem a ha))

lemma mem_names_of_host (hp : (host.beside part).WellNamed)
    (hpart : part.Admits (as.filterMap Sum.getLeft?)) {o : Opt η} (ho : o ∈ host.options) :
    o.name ∈ (as.map Assignment.ofPart).map (·.name) ↔
      o.name ∈ (as.filterMap Sum.getRight?).map (·.name) := by
  rw [(names_parts_perm as).mem_iff, List.mem_append, or_iff_right_iff_imp]
  intro hmem
  obtain ⟨a, ha, hsame⟩ := List.mem_map.mp hmem
  exact absurd hsame (hp.parts.2.2 _ (hpart.mem a ha) o ho)

/-- A program that has taken in the options of a part reads of its words what it reads alone and
what the part reads alone. -/
theorem parse_beside (hp : (host.beside part).WellNamed)
    (hpart : part.Admits (as.filterMap Sum.getLeft?))
    (hhost : host.Admits (as.filterMap Sum.getRight?)) {s s' : σ} {t t' : η}
    (hs : part.parse s ((as.filterMap Sum.getLeft?).map Assignment.word) environment = .ok s')
    (ht : host.parse t ((as.filterMap Sum.getRight?).map Assignment.word) environment = .ok t') :
    (host.beside part).parse (s, t) (as.map (Sum.elim Assignment.word Assignment.word))
      environment = .ok (s', t') := by
  obtain ⟨hwell, hwell', -⟩ := hp.parts
  have hwords : as.map (Sum.elim Assignment.word Assignment.word) =
      (as.map Assignment.ofPart).map Assignment.word := by
    rw [List.map_map]
    exact List.map_congr_left fun a _ => (Assignment.word_ofPart a).symm
  rw [parse_longWords hwell hpart] at hs
  rw [parse_longWords hwell' hhost] at ht
  obtain ⟨s₁, hs₁, hs₂⟩ := exists_of_bind hs
  obtain ⟨t₁, ht₁, ht₂⟩ := exists_of_bind ht
  have hput : (as.map Assignment.ofPart).foldlM Assignment.put (s, t) = .ok (s₁, t₁) := by
    rw [List.foldlM_map]
    exact foldlM_parts (fun _ _ _ => mapError_map _ _ _) (fun _ _ _ => mapError_map _ _ _) hs₁ ht₁
  rw [hwords, parse_longWords hp (.beside hp hpart hhost), hput]
  exact foldlM_fill_beside (fun _ ho => mem_names_of_part hp hhost ho)
    (fun _ ho => mem_names_of_host hp hpart ho) hs₂ ht₂

end Program

end

end TrafficFeed.CommandLine
