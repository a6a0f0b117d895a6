import TrafficFeed.Proofs.Text.Numeral
import TrafficFeed.Settings.CommandLine

/-!
# Durations in words

Every duration has a form in seconds and nanoseconds that it is read back from.
-/

namespace TrafficFeed.Clock.Duration

open TrafficFeed.Text

/-! ### Numbers within a duration -/

variable {number digit : Nat} (sum : Option Sum) (start position : Nat)

lemma step_gap_digit (h : digit < 10) : ∃ next,
    Reader.step ⟨sum, .gap start, position⟩ digit.digitChar = .ok ⟨sum, .number digit, next⟩ :=
  ⟨_, by simp only [Reader.step, decimalDigit?_digitChar h]; rfl⟩

lemma step_number_digit (h : digit < 10) (hbound : 10 * number + digit < wordBound) : ∃ next,
    Reader.step ⟨sum, .number number, position⟩ digit.digitChar =
      .ok ⟨sum, .number (10 * number + digit), next⟩ :=
  ⟨_, by simp only [Reader.step, decimalDigit?_digitChar h, moreDigits, if_pos hbound]; rfl⟩

/-- A number in decimal form is taken as a whole. -/
lemma foldlM_toDigits (h : number < wordBound) : ∃ next,
    (Nat.toDigits 10 number).foldlM Reader.step ⟨sum, .gap start, position⟩ =
      .ok ⟨sum, .number number, next⟩ := by
  revert h
  refine toDigits_induction (show 1 < 10 by decide) ?digit ?more number
  case digit =>
    intro d hd _
    obtain ⟨next, hnext⟩ := step_gap_digit sum start position hd
    exact ⟨next, by rw [List.foldlM_cons, hnext]; rfl⟩
  case more =>
    intro n _ cs ih d hd hbound
    obtain ⟨middle, hmiddle⟩ := ih (by omega)
    obtain ⟨next, hnext⟩ := step_number_digit sum middle hd hbound
    refine ⟨next, ?_⟩
    rw [List.foldlM_append, hmiddle]
    change [d.digitChar].foldlM Reader.step ⟨sum, .number n, middle⟩ = _
    rw [List.foldlM_cons, hnext]
    rfl

/-! ### Seconds and nanoseconds -/

lemma product_zero (number : Nat) : product number 0 = .ok 0 := by
  rw [product, Nat.mul_zero, if_pos (by decide)]

lemma product_one (h : number < wordBound) : product number 1 = .ok number := by
  rw [product, Nat.mul_one, if_pos h]

lemma addUnits_seconds (h : number < wordBound) :
    Sum.zero.addUnits number none "s" = .ok ⟨number, 0⟩ := by
  have hunit : Unit.ofWord? "s" = some .second := rfl
  have hpos : 0 < wordBound := by decide
  have hadd : Sum.zero.add number 0 = .ok ⟨number, 0⟩ := by
    simp [Sum.add, Sum.zero, second, Nat.not_le.mpr h, Nat.not_le.mpr hpos]
  simp only [Sum.addUnits, hunit, Unit.scale, product_one h, product_zero]
  exact congrArg (· >>= _) hadd

lemma addUnits_nanoseconds {secs : Nat} (h : secs < wordBound) (hnanos : number < second) :
    (Sum.mk secs 0).addUnits number none "ns" = .ok ⟨secs, number⟩ := by
  have hunit : Unit.ofWord? "ns" = some .nanosecond := rfl
  have hnumber : number < wordBound := Nat.lt_trans hnanos (by decide)
  have hadd : (Sum.mk secs 0).add 0 number = .ok ⟨secs, number⟩ := by
    simp [Sum.add, Nat.not_le.mpr h, Nat.not_le.mpr hnumber, Nat.ne_of_lt hnanos,
      Nat.div_eq_of_lt hnanos, Nat.mod_eq_of_lt hnanos]
  simp only [Sum.addUnits, hunit, Unit.scale, product_one hnumber, product_zero]
  exact congrArg (· >>= _) hadd

/-- The unit of a number, with which its letters begin. -/
lemma step_unit (number : Nat) {c : Char} (hdigit : decimalDigit? c = none)
    (hblank : isBlank c = false) (hletter : isUnitLetter c = true) : ∃ next,
    Reader.step ⟨sum, .number number, position⟩ c = .ok ⟨sum, .unit number none [c], next⟩ :=
  ⟨_, by simp only [Reader.step, hdigit, hblank, hletter]; rfl⟩

lemma foldlM_seconds (h : number < wordBound) : ∃ next,
    ['s', ' '].foldlM Reader.step ⟨none, .number number, position⟩ =
      .ok ⟨some ⟨number, 0⟩, .gap next, next⟩ := by
  obtain ⟨middle, hunit⟩ := step_unit none position number
    (show decimalDigit? 's' = none from rfl) (by decide) (by decide)
  have hclose : Reader.close ⟨none, .unit number none ['s'], middle⟩ number none ['s'] =
      .ok ⟨number, 0⟩ := addUnits_seconds h
  have hblank : isBlank ' ' = true := by decide
  have hdigit : decimalDigit? ' ' = none := rfl
  refine ⟨middle + ' '.utf8Size, ?_⟩
  rw [List.foldlM_cons, hunit]
  change [' '].foldlM Reader.step ⟨none, .unit number none ['s'], middle⟩ = _
  simp only [List.foldlM_cons, Reader.step, hdigit, hblank, if_true, hclose]
  rfl

lemma foldlM_nanoseconds {secs : Nat} (h : secs < wordBound) (hnanos : number < second) :
    ∃ r : Reader, ['n', 's'].foldlM Reader.step ⟨some ⟨secs, 0⟩, .number number, position⟩ = .ok r ∧
      r.finish = .ok ⟨secs, number⟩ := by
  obtain ⟨middle, hunit⟩ := step_unit (some ⟨secs, 0⟩) position number
    (show decimalDigit? 'n' = none from rfl) (by decide) (by decide)
  have hblank : isBlank 's' = false := by decide
  have hletter : isUnitLetter 's' = true := by decide
  have hdigit : decimalDigit? 's' = none := rfl
  refine ⟨⟨some ⟨secs, 0⟩, .unit number none ['s', 'n'], middle + 's'.utf8Size⟩, ?_,
    addUnits_nanoseconds h hnanos⟩
  rw [List.foldlM_cons, hunit]
  change ['s'].foldlM Reader.step ⟨some ⟨secs, 0⟩, .unit number none ['n'], middle⟩ = _
  simp only [List.foldlM_cons, Reader.step, hdigit, hblank, hletter, if_true]
  rfl

lemma toList_durationWord (ns : Nat) : (Settings.durationWord ns).toList =
    Nat.toDigits 10 (ns / second) ++
      (['s', ' '] ++ (Nat.toDigits 10 (ns % second) ++ ['n', 's'])) := by
  simp [Settings.durationWord]

/-- A duration is read back from its seconds and nanoseconds. -/
theorem parse_durationWord {ns : Nat} (h : ns < wordBound * second) :
    parse (Settings.durationWord ns) = .ok ns := by
  have hpos : 0 < second := by decide
  have hsecs : ns / second < wordBound := (Nat.div_lt_iff_lt_mul hpos).mpr h
  have hnanos : ns % second < second := Nat.mod_lt ns hpos
  have hnumber : ns % second < wordBound := Nat.lt_trans hnanos (by decide)
  have hzero : Settings.durationWord ns ≠ "0" := by
    intro heq
    have hmem : 's' ∈ (Settings.durationWord ns).toList := by simp [toList_durationWord]
    rw [heq] at hmem
    revert hmem
    decide
  obtain ⟨p₁, hread₁⟩ := foldlM_toDigits none 0 0 hsecs
  obtain ⟨p₂, hread₂⟩ := foldlM_seconds p₁ hsecs
  obtain ⟨p₃, hread₃⟩ := foldlM_toDigits (some ⟨ns / second, 0⟩) p₂ p₂ hnumber
  obtain ⟨r, hread₄, hfinish⟩ := foldlM_nanoseconds p₃ hsecs hnanos
  have hread : (Settings.durationWord ns).toList.foldlM Reader.step ⟨none, .gap 0, 0⟩ = .ok r := by
    simp only [toList_durationWord, List.foldlM_append, hread₁, bind, Except.bind]
    simp only [hread₂, hread₃]
    exact hread₄
  rw [parse, if_neg hzero, hread]
  simp only [bind, Except.bind, hfinish, pure, Except.pure, Sum.total, Nat.div_add_mod']

end TrafficFeed.Clock.Duration
