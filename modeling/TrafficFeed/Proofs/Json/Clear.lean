import Mathlib.Tactic.Lemma
import TrafficFeed.Json.Printer

/-!
# Characters of the compact form

No value has a character below the blank in its compact form: those within its texts and keys are
escaped, and the form adds none of its own. So it is written in one line, whatever it is made of.
-/

namespace TrafficFeed

namespace Text

/-- No character lies below the blank. -/
def Clear (cs : List Char) : Prop := ∀ c ∈ cs, 0x20 ≤ c.toNat

variable {cs ds : List Char}

@[simp] lemma clear_nil : Clear [] := by simp [Clear]

@[simp] lemma clear_cons {c : Char} : Clear (c :: cs) ↔ 0x20 ≤ c.toNat ∧ Clear cs := by simp [Clear]

@[simp] lemma clear_append : Clear (cs ++ ds) ↔ Clear cs ∧ Clear ds := by
  simp [Clear, or_imp, forall_and]

lemma Clear.newline_notMem (h : Clear cs) : '\n' ∉ cs := fun hmem =>
  absurd (h '\n' hmem) (by decide)

lemma clear_of_isDigit (h : ∀ c ∈ cs, c.isDigit = true) : Clear cs := by
  intro c hc
  have hdigit := h c hc
  simp only [Char.isDigit, Bool.and_eq_true, decide_eq_true_eq] at hdigit
  exact Nat.le_trans (by decide : 0x20 ≤ '0'.toNat) hdigit.1

lemma clear_toDigits (n : Nat) : Clear (Nat.toDigits 10 n) :=
  clear_of_isDigit fun _ hc => Nat.isDigit_of_mem_toDigits (by decide) (by decide) hc

lemma clear_intercalate {parts : List String} (h : ∀ s ∈ parts, Clear s.toList) :
    Clear ([','].intercalate (parts.map String.toList)) := by
  induction parts with
  | nil => simp
  | cons s parts ih =>
    have hs : Clear s.toList := h s (by simp)
    have hparts := ih fun t ht => h t (by simp [ht])
    cases parts with
    | nil => simpa using hs
    | cons t parts => simpa [hs] using hparts

end Text

namespace Json

open TrafficFeed.Text

/-! ### Texts and numbers -/

lemma clear_escape (c : Char) : Clear (escape c) := by
  have hdigit : ∀ n < 16, 0x20 ≤ (digitChar n).toNat := by decide
  by_cases hcontrol : c.toNat < 0x20
  · have hhigh := hdigit (c.toNat / 16) (by omega)
    have hlow := hdigit (c.toNat % 16) (by omega)
    unfold escape
    repeat' split
    all_goals simp_all
  · unfold escape
    repeat' split
    all_goals simp_all

lemma clear_quote (s : String) : Clear (quote s).toList := by
  have hescaped : Clear (s.toList.flatMap escape) := by
    intro c hc
    obtain ⟨d, -, hd⟩ := List.mem_flatMap.mp hc
    exact clear_escape d c hd
  simp [quote, quoteChars, hescaped]

lemma clear_repr (n : Int) : Clear n.repr.toList := by
  cases n with
  | ofNat n => simp [Int.repr, clear_toDigits]
  | negSucc n => simp [Int.repr, clear_toDigits]

lemma clear_number (n : Number) : Clear n.render.toList := by
  cases n with
  | int value => exact clear_repr value
  | decimal negative digits exponent =>
    cases negative <;> simp [Number.render, clear_toDigits, clear_repr]

/-! ### Values -/

mutual

/-- The compact form of a value is clear. -/
theorem clear_render : ∀ v : Json, Clear (render v).toList
  | .null => by simp [render]
  | .bool true => by simp [render]
  | .bool false => by simp [render]
  | .number n => clear_number n
  | .text s => clear_quote s
  | .list items => by simp [render, clear_intercalate (clear_renderItems items)]
  | .object members => by simp [render, clear_intercalate (clear_renderMembers members)]

/-- So is that of each item of a list. -/
theorem clear_renderItems : ∀ items : List Json, ∀ s ∈ renderItems items, Clear s.toList
  | [] => by simp [renderItems]
  | v :: vs => by
    simp only [renderItems, List.forall_mem_cons]
    exact ⟨clear_render v, clear_renderItems vs⟩

/-- So is that of each member of an object, with its key. -/
theorem clear_renderMembers :
    ∀ members : List (String × Json), ∀ s ∈ renderMembers members, Clear s.toList
  | [] => by simp [renderMembers]
  | (k, v) :: ms => by
    simp only [renderMembers, List.forall_mem_cons]
    exact ⟨by simp [clear_quote, clear_render v], clear_renderMembers ms⟩

end

end Json

end TrafficFeed
