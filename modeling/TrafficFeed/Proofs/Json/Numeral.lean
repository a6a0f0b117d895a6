import TrafficFeed.Json.Number
import TrafficFeed.Proofs.Text.Numeral

/-!
# Whole numbers in JSON

The decimal form of a number is a literal that reads as the number, as long as it fits in 64 bits.
-/

namespace TrafficFeed.Json.Number

open TrafficFeed.Text

/-! ### Digits -/

lemma spanDigits_append {cs : List Char} {ds : List Nat} (h : spanDigits cs = (ds, []))
    {d : Nat} (hd : d < 10) : spanDigits (cs ++ [d.digitChar]) = (ds ++ [d], []) := by
  induction cs generalizing ds with
  | nil =>
    simp only [spanDigits, Prod.mk.injEq, and_true] at h
    subst h
    simp [spanDigits, decimalDigit?_digitChar hd]
  | cons c cs ih =>
    simp only [spanDigits, List.cons_append] at h ⊢
    cases hc : decimalDigit? c with
    | none => simp [hc] at h
    | some e =>
      simp only [hc, Prod.mk.injEq] at h ⊢
      obtain ⟨rfl, hrest⟩ := h
      have ih := ih (Prod.ext rfl hrest)
      simp [ih]

lemma ofDigits_concat (ds : List Nat) (d : Nat) : ofDigits (ds ++ [d]) = 10 * ofDigits ds + d := by
  simp [ofDigits]

/-- The digits of a number are read as its digits, which do not begin with zero unless there is no
other. -/
lemma spanDigits_toDigits (n : Nat) : ∃ ds, spanDigits (Nat.toDigits 10 n) = (ds, []) ∧
    ofDigits ds = n ∧ ds ≠ [] ∧ (0 < n → ds.head? ≠ some 0) ∧ (n = 0 → ds = [0]) := by
  refine toDigits_induction (show 1 < 10 by decide) ?digit ?more n
  case digit =>
    intro d hd
    have hnil : spanDigits [] = ([], []) := rfl
    refine ⟨[d], spanDigits_append hnil hd, by simp [ofDigits], by simp, ?_, ?_⟩
    · intro hpos
      simp
      omega
    · intro hzero
      rw [hzero]
  case more =>
    rintro n hpos cs ⟨ds, hspan, hvalue, hne, hhead, -⟩ d hd
    refine ⟨ds ++ [d], spanDigits_append hspan hd, ?_, by simp, ?_, by omega⟩
    · rw [ofDigits_concat, hvalue]
    · intro _
      obtain ⟨e, rest, rfl⟩ := List.exists_cons_of_ne_nil hne
      exact hhead hpos

/-! ### Literals -/

lemma literal_toDigits (n : Nat) : ∃ ds, ofDigits ds = n ∧
    Literal.ofChars? (Nat.toDigits 10 n) = some ⟨false, ds, none, none⟩ := by
  obtain ⟨ds, hspan, hvalue, hne, hhead, hzero⟩ := spanDigits_toDigits n
  refine ⟨ds, hvalue, ?_⟩
  have hsign : ∀ rest, Nat.toDigits 10 n ≠ '-' :: rest := by
    intro rest heq
    rw [heq] at hspan
    simp [spanDigits, decimalDigit?] at hspan
  have hlead : ∀ d rest, ds ≠ 0 :: d :: rest := by
    intro d rest heq
    rcases Nat.eq_zero_or_pos n with hn | hn
    · simp [hzero hn] at heq
    · exact hhead hn (by rw [heq]; rfl)
  unfold Literal.ofChars?
  split
  next negative cs heq =>
    split at heq
    · next rest hrest => exact absurd hrest (hsign rest)
    · simp only [Prod.mk.injEq] at heq
      obtain ⟨rfl, rfl⟩ := heq
      rw [hspan]
      split
      · next heq => simp_all
      · next heq =>
        simp only [Prod.mk.injEq] at heq
        exact absurd heq.1 (hlead _ _)
      · next heq => simp at heq
      · next heq =>
        simp only [Prod.mk.injEq] at heq
        obtain ⟨rfl, rfl⟩ := heq
        rfl

/-- The decimal form of a number that fits in 64 bits reads as the number. -/
lemma ofChars?_toDigits {n : Nat} (h : n < UInt64.size) :
    ofChars? (Nat.toDigits 10 n) = some (.int n) := by
  obtain ⟨ds, hvalue, hliteral⟩ := literal_toDigits n
  have hbound : n < wordBound := h
  simp [ofChars?, hliteral, Literal.value?, hvalue, hbound]

end TrafficFeed.Json.Number
