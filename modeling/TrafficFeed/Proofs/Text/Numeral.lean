import Mathlib.Algebra.Ring.Nat
import Mathlib.Data.List.Forall2
import Mathlib.Tactic.Lemma
import TrafficFeed.Text.Numeral

/-!
# Decimal forms

A number is read back from its decimal form. Forms that are filled up with zeros to the same width
are in the order of their numbers, and so are rows of such forms.
-/

namespace TrafficFeed.Text

/-! ### Digits -/

lemma decimalDigit?_digitChar {d : Nat} (h : d < 10) : decimalDigit? d.digitChar = some d := by
  have hall : ∀ d < 10, decimalDigit? d.digitChar = some d := by decide
  exact hall d h

/-- The form of a number is a digit, or that of a number with a digit behind it. -/
@[elab_as_elim]
lemma toDigits_induction {base : Nat} (hbase : 1 < base) {motive : Nat → List Char → Prop}
    (digit : ∀ d < base, motive d [d.digitChar])
    (more : ∀ n > 0, ∀ cs, motive n cs → ∀ d < base, motive (base * n + d) (cs ++ [d.digitChar]))
    (n : Nat) : motive n (Nat.toDigits base n) := by
  induction n using Nat.strongRecOn with
  | ind n ih =>
    rw [Nat.toDigits_eq_if hbase]
    split
    · next hn => exact digit n hn
    · next hn =>
      have hpos : 0 < n / base := Nat.div_pos (Nat.le_of_not_lt hn) (by omega)
      have hfront := ih (n / base) (Nat.div_lt_self (by omega) hbase)
      have hmore := more (n / base) hpos _ hfront (n % base) (Nat.mod_lt n (by omega))
      rwa [Nat.div_add_mod] at hmore

/-- The values of the digits of a number, which make up the number. -/
lemma exists_digits {base : Nat} (hbase : 1 < base) (read : Char → Option Nat)
    (hread : ∀ d < base, read d.digitChar = some d) (n : Nat) : ∃ ds,
    List.Forall₂ (fun c d => read c = some d) (Nat.toDigits base n) ds ∧
      ds.foldl (base * · + ·) 0 = n := by
  refine toDigits_induction hbase ?digit ?more n
  case digit => exact fun d hd => ⟨[d], .cons (hread d hd) .nil, by simp⟩
  case more =>
    rintro n - cs ⟨ds, hds, hvalue⟩ d hd
    refine ⟨ds ++ [d], List.rel_append hds (.cons (hread d hd) .nil), ?_⟩
    rw [List.foldl_append, hvalue]
    rfl

/-! ### Numbers below a bound -/

lemma readDigits_concat {bound n value d : Nat} {cs : List Char}
    (h : readDigits bound n cs = .ok value) (hd : d < 10) (hbound : 10 * value + d < bound) :
    readDigits bound n (cs ++ [d.digitChar]) = .ok (10 * value + d) := by
  induction cs generalizing n with
  | nil =>
    obtain rfl : n = value := by simpa [readDigits] using h
    simp [readDigits, decimalDigit?_digitChar hd, hbound]
  | cons c cs ih =>
    simp only [List.cons_append, readDigits] at h ⊢
    split at h
    · cases h
    · next e he =>
      split at h
      · next hlt =>
        simp only [hlt, if_true]
        exact ih h
      · cases h

lemma readDigits_toDigits {bound n : Nat} (h : n < bound) :
    readDigits bound 0 (Nat.toDigits 10 n) = .ok n := by
  revert h
  refine toDigits_induction (show 1 < 10 by decide) ?digit ?more n
  case digit =>
    intro d hd hbound
    simp [readDigits, decimalDigit?_digitChar hd, hbound]
  case more =>
    intro n _ cs ih d hd hbound
    exact readDigits_concat (ih (by omega)) hd hbound

/-- A number below a bound is read back from its decimal form, which has no sign. -/
lemma readNumeral_toString {bound n : Nat} (h : n < bound) :
    readNumeral bound (toString n) = .ok n := by
  have hsign : ∀ c ∈ Nat.toDigits 10 n, c ≠ '+' ∧ c ≠ '-' := by
    intro c hc
    have hdigit := Nat.isDigit_of_mem_toDigits (by decide) (by decide) hc
    constructor <;> rintro rfl <;> cases hdigit
  have hlist : (toString n).toList = Nat.toDigits 10 n := Nat.toList_repr
  rw [readNumeral, hlist]
  have hread := readDigits_toDigits h
  split
  · next hnil => exact absurd hnil Nat.toDigits_ne_nil
  · next heq => exact absurd rfl (hsign '+' (heq ▸ List.mem_cons_self)).1
  · next heq => exact absurd rfl (hsign '-' (heq ▸ List.mem_cons_self)).2
  · next heq => exact absurd rfl (hsign '+' (heq ▸ List.mem_cons_self)).1
  · exact hread

/-! ### Forms of one width -/

lemma append_lt_append {as bs : List Char} (hlength : as.length = bs.length) (h : as < bs)
    (cs ds : List Char) : as ++ cs < bs ++ ds := by
  induction h with
  | nil => cases hlength
  | rel hlt => exact .rel hlt
  | cons _ ih => exact .cons (ih (Nat.succ.inj hlength))

section Padded

variable {width m n : Nat}

lemma toList_padded (width n : Nat) : (padded width n).toList =
    List.replicate (width - (Nat.toDigits 10 n).length) '0' ++ Nat.toDigits 10 n :=
  String.toList_ofList

lemma isDigit_padded {c : Char} (h : c ∈ (padded width n).toList) : c.isDigit := by
  rw [toList_padded] at h
  rcases List.mem_append.mp h with hzero | hdigit
  · rw [List.eq_of_mem_replicate hzero]
    rfl
  · exact Nat.isDigit_of_mem_toDigits (by decide) (by decide) hdigit

lemma notMem_padded {c : Char} (h : c.isDigit = false) : c ∉ (padded width n).toList := by
  intro hmem
  rw [isDigit_padded hmem] at h
  cases h

lemma length_padded (hwidth : 0 < width) (h : n < 10 ^ width) :
    (padded width n).toList.length = width := by
  have hlength := (Nat.length_toDigits_le_iff (by decide) hwidth).mpr h
  rw [toList_padded, List.length_append, List.length_replicate]
  omega

/-- The last digit stands behind the form of the others. -/
lemma toList_padded_succ (hwidth : 0 < width) (n : Nat) : (padded (width + 1) n).toList =
    (padded width (n / 10)).toList ++ [(n % 10).digitChar] := by
  rw [toList_padded, toList_padded]
  by_cases hn : n < 10
  · rw [Nat.toDigits_of_lt_base hn, Nat.div_eq_of_lt hn, Nat.mod_eq_of_lt hn, Nat.toDigits_zero]
    obtain ⟨zeros, rfl⟩ := Nat.exists_eq_succ_of_ne_zero (Nat.ne_of_gt hwidth)
    simp [List.replicate_succ']
  · rw [Nat.toDigits_of_base_le (by decide) (by omega)]
    simp

lemma toList_padded_one (h : n < 10) : (padded 1 n).toList = [n.digitChar] := by
  rw [toList_padded, Nat.toDigits_of_lt_base h]
  rfl

lemma ofDigits?_padded (hwidth : 0 < width) (h : n < 10 ^ width) :
    ofDigits? decimalDigit? 10 (padded width n).toList = some n := by
  induction width generalizing n with
  | zero => cases hwidth
  | succ width ih =>
    rcases Nat.eq_zero_or_pos width with rfl | hfront
    · rw [toList_padded_one h]
      simp [ofDigits?, decimalDigit?_digitChar h]
    · have hread := ih hfront (show n / 10 < 10 ^ width by rw [Nat.pow_succ] at h; omega)
      have hlast := decimalDigit?_digitChar (show n % 10 < 10 by omega)
      rw [ofDigits?] at hread ⊢
      rw [toList_padded_succ hfront, List.foldlM_append, hread]
      simp [hlast, Nat.div_add_mod]

/-- A smaller number has a smaller form, in the order of texts. -/
lemma padded_lt_padded (hwidth : 0 < width) (hmn : m < n) (hn : n < 10 ^ width) :
    (padded width m).toList < (padded width n).toList := by
  induction width generalizing m n with
  | zero => cases hwidth
  | succ width ih =>
    have hdigits : ∀ d < 10, ∀ e < 10, d < e → d.digitChar < e.digitChar := by decide
    rcases Nat.eq_zero_or_pos width with rfl | hfront
    · rw [toList_padded_one (Nat.lt_trans hmn hn), toList_padded_one hn]
      exact .rel (hdigits m (by omega) n (by omega) hmn)
    · have hn' : n / 10 < 10 ^ width := by
        rw [Nat.pow_succ] at hn
        omega
      rw [toList_padded_succ hfront, toList_padded_succ hfront]
      rcases Nat.lt_or_ge (m / 10) (n / 10) with hlt | hge
      · refine append_lt_append ?_ (ih hfront hlt hn') _ _
        rw [length_padded hfront (Nat.lt_trans hlt hn'), length_padded hfront hn']
      · have heq : m / 10 = n / 10 := by omega
        rw [heq]
        exact List.append_left_lt (.rel (hdigits _ (by omega) _ (by omega) (by omega)))

end Padded

/-! ### Rows -/

/-- Numbers in forms of set widths, each with the mark that stands behind it. -/
def row : List (Nat × Char) → List Nat → List Char
  | (width, mark) :: form, n :: ns => (padded width n).toList ++ mark :: row form ns
  | _, _ => []

/-- The numbers of a row. -/
def readRow? : List (Nat × Char) → List Char → Option (List Nat)
  | [], [] => some []
  | [], _ :: _ => none
  | (width, mark) :: form, cs => do
    let n ← ofDigits? decimalDigit? 10 (cs.take width)
    match cs.drop width with
    | c :: rest => if c = mark then (readRow? form rest).map (n :: ·) else none
    | [] => none

/-- Numbers that are not too long for their places. -/
def Fits : List (Nat × Char) → List Nat → Prop :=
  List.Forall₂ fun place n => 0 < place.1 ∧ n < 10 ^ place.1

section Row

variable {form : List (Nat × Char)} {ms ns : List Nat}

lemma length_row (h : Fits form ns) :
    (row form ns).length = (form.map fun place => place.1 + 1).sum := by
  induction h with
  | nil => rfl
  | cons hn _ ih =>
    rw [row, List.length_append, List.length_cons, length_padded hn.1 hn.2, ih, List.map_cons,
      List.sum_cons]
    omega

lemma mem_row {c : Char} (h : c ∈ row form ns) : c.isDigit ∨ c ∈ form.map Prod.snd := by
  fun_induction row form ns with
  | case1 width mark form n ns ih =>
    rcases List.mem_append.mp h with hdigit | htail
    · exact .inl (isDigit_padded hdigit)
    · rcases List.mem_cons.mp htail with rfl | hrest
      · exact .inr List.mem_cons_self
      · exact (ih hrest).imp_right (List.mem_cons_of_mem _)
  | case2 => cases h

lemma readRow?_row (h : Fits form ns) : readRow? form (row form ns) = some ns := by
  induction h with
  | nil => rfl
  | @cons place n form ns hn _ ih =>
    have hlength := length_padded hn.1 hn.2
    have htake : (row (place :: form) (n :: ns)).take place.1 = (padded place.1 n).toList := by
      rw [row, List.take_left' hlength]
    have hdrop : (row (place :: form) (n :: ns)).drop place.1 = place.2 :: row form ns := by
      rw [row, List.drop_left' hlength]
    rw [readRow?, htake, hdrop, ofDigits?_padded hn.1 hn.2]
    simp [ih]

/-- Rows of one form are in the order of their numbers. -/
lemma row_lt_row (hm : Fits form ms) (hn : Fits form ns) (h : ms < ns) :
    row form ms < row form ns := by
  induction hm generalizing ns with
  | nil =>
    cases hn
    exact absurd h (List.lt_irrefl _)
  | @cons place m form ms hm hms ih =>
    cases hn with
    | @cons _ n _ ns hn hns =>
      rw [row, row]
      rcases List.cons_lt_cons_iff.mp h with hlt | ⟨rfl, hlt⟩
      · refine append_lt_append ?_ (padded_lt_padded hn.1 hlt hn.2) _ _
        rw [length_padded hm.1 hm.2, length_padded hn.1 hn.2]
      · exact List.append_left_lt (.cons (ih hns hlt))

end Row

end TrafficFeed.Text
