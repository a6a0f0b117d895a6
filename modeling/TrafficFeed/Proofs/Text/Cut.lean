import Mathlib.Data.List.Forall2
import Mathlib.Tactic.Lemma
import TrafficFeed.Text.Cut

/-!
# The parts of a text

Parts without separators that are put together with separators between them are cut apart again. A
line is split at its first mark, a colon that a blank follows.
-/

namespace TrafficFeed.Text

/-! ### Between the members of a set -/

section Where

variable {p : Char → Bool} {part : List Char}

lemma cutWhere_of_forall (h : ∀ c ∈ part, p c = false) : cutWhere p part = [part] := by
  induction part with
  | nil => rfl
  | cons c cs ih =>
    have hc := h c List.mem_cons_self
    have hcs := ih fun d hd => h d (List.mem_cons_of_mem _ hd)
    simp [cutWhere, hc, hcs]

lemma cutWhere_append_cons {sep : Char} (h : ∀ c ∈ part, p c = false) (hsep : p sep = true)
    (rest : List Char) : cutWhere p (part ++ sep :: rest) = part :: cutWhere p rest := by
  induction part with
  | nil => simp [cutWhere, hsep]
  | cons c cs ih =>
    have hc := h c List.mem_cons_self
    have hcs := ih fun d hd => h d (List.mem_cons_of_mem _ hd)
    simp [cutWhere, hc, hcs]

lemma cutWhere_intercalate {sep : Char} {parts : List (List Char)} (hne : parts ≠ [])
    (hsep : p sep = true) (h : ∀ part ∈ parts, ∀ c ∈ part, p c = false) :
    cutWhere p ([sep].intercalate parts) = parts := by
  induction parts with
  | nil => exact absurd rfl hne
  | cons part parts ih =>
    have hpart := h part List.mem_cons_self
    cases parts with
    | nil => rw [List.intercalate_singleton, cutWhere_of_forall hpart]
    | cons other others =>
      rw [List.intercalate_cons_cons, List.append_assoc, List.singleton_append,
        cutWhere_append_cons hpart hsep,
        ih (List.cons_ne_nil _ _) fun part hmem => h part (List.mem_cons_of_mem _ hmem)]

/-- No part holds a separator, and all that a part holds is from the text. -/
lemma mem_of_mem_cutWhere {cs : List Char} (h : part ∈ cutWhere p cs) {c : Char} (hc : c ∈ part) :
    c ∈ cs ∧ p c = false := by
  induction cs generalizing part with
  | nil =>
    obtain rfl : part = [] := List.mem_singleton.mp h
    exact absurd hc List.not_mem_nil
  | cons d ds ih =>
    have hcut : ∀ {part}, part ∈ cutWhere p ds → c ∈ part → c ∈ d :: ds ∧ p c = false :=
      fun hpart hc => (ih hpart hc).imp_left (List.mem_cons_of_mem _)
    obtain ⟨first, parts, hparts⟩ := List.exists_cons_of_ne_nil (cutWhere_ne_nil p ds)
    cases hd : p d with
    | true =>
      simp only [cutWhere, hd, if_true, List.mem_cons] at h
      rcases h with rfl | h
      · exact absurd hc List.not_mem_nil
      · exact hcut h hc
    | false =>
      simp only [cutWhere, hd, Bool.false_eq_true, if_false, hparts, List.mem_cons] at h
      rcases h with rfl | h
      · rcases List.mem_cons.mp hc with rfl | hc
        · exact ⟨List.mem_cons_self, hd⟩
        · exact hcut (by simp [hparts]) hc
      · exact hcut (by simp [hparts, h]) hc

end Where

/-! ### Between separators -/

section Separator

variable {sep : Char}

lemma cut_append_cons {part : List Char} (h : sep ∉ part) (rest : List Char) :
    cut sep (part ++ sep :: rest) = part :: cut sep rest := by
  have hpart : ∀ c ∈ part, (c == sep) = false :=
    fun c hc => beq_false_of_ne fun heq => h (heq ▸ hc)
  exact cutWhere_append_cons hpart (beq_self_eq_true sep) rest

lemma cut_intercalate {parts : List (List Char)} (hne : parts ≠ [])
    (h : ∀ part ∈ parts, sep ∉ part) : cut sep ([sep].intercalate parts) = parts := by
  have hparts : ∀ part ∈ parts, ∀ c ∈ part, (c == sep) = false :=
    fun part hpart c hc => beq_false_of_ne fun heq => h part hpart (heq ▸ hc)
  exact cutWhere_intercalate hne (beq_self_eq_true sep) hparts

lemma mem_of_mem_cut {part cs : List Char} (h : part ∈ cut sep cs) {c : Char} (hc : c ∈ part) :
    c ∈ cs ∧ c ≠ sep :=
  (mem_of_mem_cutWhere h hc).imp_right fun hsep => by simpa using hsep

lemma cut_ne_nil (cs : List Char) : cut sep cs ≠ [] := cutWhere_ne_nil _ cs

lemma mem_intercalate {parts : List (List Char)} {c : Char} (h : c ∈ [sep].intercalate parts) :
    c = sep ∨ ∃ part ∈ parts, c ∈ part := by
  induction parts with
  | nil => exact absurd h List.not_mem_nil
  | cons part parts ih =>
    cases parts with
    | nil => exact .inr ⟨part, List.mem_cons_self, by simpa using h⟩
    | cons other others =>
      rw [List.intercalate_cons_cons, List.append_assoc, List.singleton_append,
        List.mem_append, List.mem_cons] at h
      rcases h with hpart | hsep | hrest
      · exact .inr ⟨part, List.mem_cons_self, hpart⟩
      · exact .inl hsep
      · exact (ih hrest).imp_right fun ⟨p, hp, hc⟩ => ⟨p, List.mem_cons_of_mem _ hp, hc⟩

end Separator

/-! ### Reading the parts -/

/-- What has been read step by step. -/
lemma exists_of_bind {ε α β : Type} {x : Except ε α} {f : α → Except ε β} {b : β}
    (h : x >>= f = .ok b) : ∃ a, x = .ok a ∧ f a = .ok b := by
  cases x with
  | error e => cases h
  | ok a => exact ⟨a, rfl, h⟩

section Reading

variable {α β : Type} {read : α → Option β} {as : List α} {bs : List β}

/-- The members of a list are read one by one. -/
lemma mapM_eq_some_iff : as.mapM read = some bs ↔
    List.Forall₂ (fun a b => read a = some b) as bs := by
  induction as generalizing bs with
  | nil => simp [eq_comm]
  | cons a as ih =>
    simp only [List.mapM_cons, Option.bind_eq_bind, Option.bind_eq_some_iff, Option.pure_def,
      Option.some.injEq, List.forall₂_cons_left_iff, ← ih, exists_and_left]
    simp only [@eq_comm _ bs]

lemma exists_of_mapM (h : as.mapM read = some bs) {a : α} (ha : a ∈ as) :
    ∃ b ∈ bs, read a = some b := by
  induction mapM_eq_some_iff.mp h with
  | nil => exact absurd ha List.not_mem_nil
  | cons hread hrest ih =>
    rcases List.mem_cons.mp ha with rfl | ha
    · exact ⟨_, List.mem_cons_self, hread⟩
    · obtain ⟨b, hb, hread⟩ := ih (mapM_eq_some_iff.mpr hrest) ha
      exact ⟨b, List.mem_cons_of_mem _ hb, hread⟩

lemma exists_of_mem_mapM (h : as.mapM read = some bs) {b : β} (hb : b ∈ bs) :
    ∃ a ∈ as, read a = some b := by
  induction mapM_eq_some_iff.mp h with
  | nil => exact absurd hb List.not_mem_nil
  | cons hread hrest ih =>
    rcases List.mem_cons.mp hb with rfl | hb
    · exact ⟨_, List.mem_cons_self, hread⟩
    · obtain ⟨a, ha, hread⟩ := ih (mapM_eq_some_iff.mpr hrest) hb
      exact ⟨a, List.mem_cons_of_mem _ ha, hread⟩

/-- What each member is written as is read back, and so is the whole list. -/
lemma mapM_of_mapM {write : β → Option α} (h : bs.mapM write = some as)
    (hback : ∀ b ∈ bs, ∀ a ∈ as, write b = some a → read a = some b) :
    as.mapM read = some bs := by
  rw [mapM_eq_some_iff] at h ⊢
  induction h with
  | nil => exact .nil
  | cons hwrite _ ih =>
    refine .cons (hback _ List.mem_cons_self _ List.mem_cons_self hwrite) (ih fun b hb a ha => ?_)
    exact hback b (List.mem_cons_of_mem _ hb) a (List.mem_cons_of_mem _ ha)

end Reading

end TrafficFeed.Text

namespace TrafficFeed

/-! ### At the first mark -/

/-- What stands before and after the first colon that a blank follows. -/
def splitLine? : List Char → Option (List Char × List Char)
  | [] => none
  | c :: cs =>
    if c = ':' ∧ cs.head? = some ' ' then some ([], cs.tail)
    else (splitLine? cs).map fun parts => (c :: parts.1, parts.2)

section Split

variable {before after : List Char}

lemma splitLine?_cons {c : Char} {cs : List Char} (h : c ≠ ':' ∨ cs.head? ≠ some ' ') :
    splitLine? (c :: cs) = (splitLine? cs).map fun parts => (c :: parts.1, parts.2) := by
  rw [splitLine?, if_neg]
  rintro ⟨hcolon, hblank⟩
  exact h.elim (· hcolon) (· hblank)

lemma splitLine?_append (h : ':' ∉ before) (rest : List Char) :
    splitLine? (before ++ rest) =
      (splitLine? rest).map fun parts => (before ++ parts.1, parts.2) := by
  induction before with
  | nil => simp
  | cons c cs ih =>
    have hc : c ≠ ':' := fun heq => h (by simp [heq])
    have hcs := ih fun hmem => h (by simp [hmem])
    rw [List.cons_append, splitLine?_cons (.inl hc), hcs, Option.map_map]
    rfl

/-- A colon is passed over if what stands between it and the next is without blanks. -/
lemma splitLine?_colon (hbefore : ':' ∉ before) (hafter : ' ' ∉ after) (rest : List Char) :
    splitLine? (before ++ ':' :: (after ++ ':' :: rest)) =
      (splitLine? (after ++ ':' :: rest)).map fun parts => (before ++ ':' :: parts.1, parts.2) := by
  have hhead : (after ++ ':' :: rest).head? ≠ some ' ' := by
    cases after with
    | nil => simp
    | cons c cs => simpa using fun heq : c = ' ' => hafter (by simp [heq])
  rw [splitLine?_append hbefore, splitLine?_cons (.inr hhead), Option.map_map]
  rfl

/-- Colons of the part before the mark do no harm, even one at its end. -/
lemma splitLine?_mark (h : ¬ [':', ' '] <:+: before) (rest : List Char) :
    splitLine? (before ++ ':' :: ' ' :: rest) = some (before, rest) := by
  induction before with
  | nil => rfl
  | cons c cs ih =>
    have hc : c ≠ ':' ∨ (cs ++ ':' :: ' ' :: rest).head? ≠ some ' ' := by
      by_contra hmark
      simp only [not_or, Decidable.not_not] at hmark
      cases cs with
      | nil => simp at hmark
      | cons d ds => exact h ⟨[], ds, by simp_all⟩
    have hcs := ih fun hmark => h (hmark.trans (List.suffix_cons c cs).isInfix)
    rw [List.cons_append, splitLine?_cons hc, hcs, Option.map_some]

end Split

end TrafficFeed
