import Mathlib.Data.Int.LeastGreatest
import Mathlib.Order.Monotone.Basic
import Mathlib.Tactic.IntervalCases
import Mathlib.Tactic.Lemma
import Mathlib.Tactic.SplitIfs
import TrafficFeed.Clock.Calendar

/-!
# The days of the calendar

The date of a day is the one that the rules of the calendar come to when days are counted from
1 January 1970. It is found by way of years that begin in March. Dates are in the order of their
days, and the day of a date is found again.
-/

namespace TrafficFeed.Clock.Date

/-! ### The rules -/

/-- A day that its month has, in a month that a year has. -/
structure Valid (d : Date) : Prop where
  month_pos : 1 ≤ d.month
  month_le : d.month ≤ 12
  day_pos : 1 ≤ d.day
  day_le : d.day ≤ monthLength d.year d.month

def next (d : Date) : Date :=
  if d.day < monthLength d.year d.month then { d with day := d.day + 1 }
  else if d.month < 12 then ⟨d.year, d.month + 1, 1⟩
  else ⟨d.year + 1, 1, 1⟩

/-- The date of a day by the rules alone, counted forwards and backwards from 1 January 1970. -/
inductive Counted : Int → Date → Prop where
  | epoch : Counted 0 ⟨1970, 1, 1⟩
  | next {n : Int} {d : Date} (h : Counted n d) : Counted (n + 1) d.next
  | previous {n : Int} {d : Date} (hvalid : d.Valid) (h : Counted (n + 1) d.next) : Counted n d

def Before (d e : Date) : Prop :=
  d.year < e.year ∨ d.year = e.year ∧ (d.month < e.month ∨ d.month = e.month ∧ d.day < e.day)

lemma Before.trans {d e f : Date} (h : d.Before e) (h' : e.Before f) : d.Before f := by
  unfold Before at *
  omega

lemma before_next (d : Date) : d.Before d.next := by
  unfold Before next
  split_ifs <;> simp

/-- Different dates have different days after them. -/
lemma next_injective {d e : Date} (hd : d.Valid) (he : e.Valid) (h : d.next = e.next) : d = e := by
  obtain ⟨year, month, day⟩ := d
  obtain ⟨year', month', day'⟩ := e
  obtain ⟨hmonth, hmonth_le, hday, hday_le⟩ := hd
  obtain ⟨hmonth', hmonth_le', hday', hday_le'⟩ := he
  dsimp only at *
  have hsame : year = year' ∧ month = month' := by
    simp only [next] at h
    split_ifs at h <;> simp only [Date.mk.injEq] at h <;> omega
  obtain ⟨rfl, rfl⟩ := hsame
  have hsameDay : day = day' := by
    simp only [next] at h
    split_ifs at h <;> simp only [Date.mk.injEq] at h <;> omega
  rw [hsameDay]

/-! ### Years that begin in March -/

/-- The days before 1 March of a year, counted from 1 March of the year 0. -/
def marchDay (year : Int) : Int := 365 * year + year / 4 - year / 100 + year / 400

/-- The days of the year that begins in March. -/
def marchLength (year : Int) : Nat := if isLeap (year + 1) then 366 else 365

/-- The days before a month of such a year; March has the number 0. -/
def monthStart (month : Nat) : Nat := (153 * month + 2) / 5

/-- The date of a day of such a year. -/
def ofMarch (year : Int) (doy : Nat) : Date :=
  let mp := (5 * doy + 2) / 153
  let month := if mp < 10 then mp + 3 else mp - 9
  ⟨year + (if month ≤ 2 then 1 else 0), month, doy - monthStart mp + 1⟩

lemma marchDay_succ (year : Int) : marchDay (year + 1) = marchDay year + marchLength year := by
  have h4 : (year + 1) / 4 = year / 4 + if (year + 1) % 4 = 0 then 1 else 0 := by
    split <;> omega
  have h100 : (year + 1) / 100 = year / 100 + if (year + 1) % 100 = 0 then 1 else 0 := by
    split <;> omega
  have h400 : (year + 1) / 400 = year / 400 + if (year + 1) % 400 = 0 then 1 else 0 := by
    split <;> omega
  have hleap : isLeap (year + 1) = true ↔
      (year + 1) % 4 = 0 ∧ ((year + 1) % 100 ≠ 0 ∨ (year + 1) % 400 = 0) := by
    simp [isLeap]
  simp only [marchDay, marchLength, hleap, h4, h100, h400]
  split_ifs <;> omega

lemma marchDay_era (era : Int) (yoe : Nat) :
    marchDay (yoe + era * 400) = era * 146097 + daysBefore yoe + (yoe / 400 : Nat) := by
  unfold marchDay daysBefore
  omega

lemma exists_march (n : Int) : ∃ (year : Int) (doy : Nat),
    n = marchDay year + doy ∧ doy < marchLength year := by
  have hbounded : ∀ year, marchDay year ≤ n → year ≤ max n 0 := by
    intro year h
    unfold marchDay at h
    omega
  have hsome : marchDay (min n 0 - 1) ≤ n := by
    unfold marchDay
    omega
  obtain ⟨year, hle, hgreatest⟩ := Int.exists_greatest_of_bdd ⟨_, hbounded⟩ ⟨_, hsome⟩
  have hlt : n < marchDay (year + 1) := by
    by_contra hge
    have := hgreatest (year + 1) (by omega)
    omega
  rw [marchDay_succ] at hlt
  exact ⟨year, (n - marchDay year).toNat, by omega, by omega⟩

/-! ### Years of an era -/

lemma yearOfEra_mono : Monotone yearOfEra := by
  refine monotone_nat_of_le_succ fun doe => Nat.div_le_div_right ?_
  have hera : (doe + 1) / 146096 = doe / 146096 ∨
      (doe + 1) / 146096 = doe / 146096 + 1 ∧ (doe + 1) / 36524 = doe / 36524 + 1 := by omega
  have hfour : (doe + 1) / 1460 ≤ doe / 1460 + 1 := by omega
  have hcentury : doe / 36524 ≤ (doe + 1) / 36524 := by omega
  have hle : doe / 146096 ≤ doe / 36524 := by omega
  have hle' : doe / 1460 ≤ doe := by omega
  generalize doe / 1460 = a, (doe + 1) / 1460 = a', doe / 36524 = b, (doe + 1) / 36524 = b',
    doe / 146096 = c, (doe + 1) / 146096 = c' at *
  omega

/-- The first and the last day of each year of an era. -/
lemma yearOfEra_ends : ∀ yoe < 400, yearOfEra (daysBefore yoe) = yoe ∧
    yearOfEra (daysBefore (yoe + 1) + (yoe + 1) / 400 - 1) = yoe := by
  decide +kernel

lemma yearOfEra_eq {yoe doe : Nat} (hyoe : yoe < 400) (hle : daysBefore yoe ≤ doe)
    (hlt : doe < daysBefore (yoe + 1) + (yoe + 1) / 400) : yearOfEra doe = yoe := by
  obtain ⟨hfirst, hlast⟩ := yearOfEra_ends yoe hyoe
  refine le_antisymm ?_ ?_
  · calc yearOfEra doe ≤ _ := yearOfEra_mono (Nat.le_sub_one_of_lt hlt)
      _ = yoe := hlast
  · calc yoe = _ := hfirst.symm
      _ ≤ yearOfEra doe := yearOfEra_mono hle

/-- The date of a day by way of its year. -/
lemma ofDays_eq {n year : Int} {doy : Nat} (h : n + 719468 = marchDay year + doy)
    (hdoy : doy < marchLength year) : ofDays n = ofMarch year doy := by
  obtain ⟨era, yoe, hyear, hyoe⟩ : ∃ (era : Int) (yoe : Nat), year = yoe + era * 400 ∧ yoe < 400 :=
    ⟨year / 400, (year % 400).toNat, by omega, by omega⟩
  subst hyear
  have hstart := marchDay_era era yoe
  have hnext := marchDay_era era (yoe + 1)
  have hsucc := marchDay_succ (yoe + era * 400)
  have hdoe : doy + daysBefore yoe < daysBefore (yoe + 1) + (yoe + 1) / 400 := by
    rw [show ((yoe : Int) + era * 400 + 1) = ((yoe + 1 : Nat) : Int) + era * 400 by omega] at hsucc
    omega
  have hyearOfEra : yearOfEra (doy + daysBefore yoe) = yoe := yearOfEra_eq hyoe (by omega) hdoe
  have hbound : doy + daysBefore yoe < 146097 := by
    unfold daysBefore at hdoe ⊢
    omega
  have hdiv : (n + 719468) / 146097 = era := by omega
  have hmod : ((n + 719468) % 146097).toNat = doy + daysBefore yoe := by omega
  simp only [ofDays, hdiv, hmod, hyearOfEra, Nat.add_sub_cancel]
  rfl

/-! ### Months of such a year -/

section Months

variable {year : Int} {doy mp : Nat}

/-- The days up to the end of a month. The last month is February, which ends with the year. -/
def monthEnd (year : Int) (mp : Nat) : Nat :=
  if mp < 11 then monthStart (mp + 1) else marchLength year

lemma exists_month (h : doy < marchLength year) :
    ∃ mp < 12, monthStart mp ≤ doy ∧ doy < monthEnd year mp := by
  refine ⟨(5 * doy + 2) / 153, ?_, ?_, ?_⟩
  · unfold marchLength at h
    split at h <;> omega
  · unfold monthStart
    omega
  · unfold monthEnd monthStart
    split <;> omega

/-- The date of a day by way of its month. -/
lemma ofMarch_eq (hmp : mp < 12) (hle : monthStart mp ≤ doy) (hlt : doy < monthEnd year mp) :
    ofMarch year doy = ⟨if mp < 10 then year else year + 1, if mp < 10 then mp + 3 else mp - 9,
      doy - monthStart mp + 1⟩ := by
  have heq : (5 * doy + 2) / 153 = mp := by
    unfold monthStart at hle
    unfold monthEnd marchLength monthStart at hlt
    split_ifs at hlt <;> omega
  by_cases hyear : mp < 10
  · simp [ofMarch, heq, hyear]
  · have hmonth : mp - 9 ≤ 2 := by omega
    simp [ofMarch, heq, hyear, hmonth]

lemma monthLength_eq (hmp : mp < 12) :
    monthLength (if mp < 10 then year else year + 1) (if mp < 10 then mp + 3 else mp - 9) =
      monthEnd year mp - monthStart mp := by
  rcases Nat.lt_or_ge mp 11 with h | h
  · interval_cases mp <;> simp [monthLength, monthEnd, monthStart]
  · obtain rfl : mp = 11 := by omega
    cases hleap : isLeap (year + 1) <;> simp [monthLength, monthEnd, marchLength, monthStart, hleap]

lemma valid_ofMarch (h : doy < marchLength year) : (ofMarch year doy).Valid := by
  obtain ⟨mp, hmp, hle, hlt⟩ := exists_month h
  rw [ofMarch_eq hmp hle hlt]
  refine ⟨?_, ?_, Nat.le_add_left 1 _, ?_⟩
  · dsimp only
    split <;> omega
  · dsimp only
    split <;> omega
  · dsimp only
    rw [monthLength_eq hmp]
    omega

/-- The day after one before the end of its month. -/
lemma next_ofMarch_of_lt (hmp : mp < 12) (hle : monthStart mp ≤ doy)
    (hlt : doy + 1 < monthEnd year mp) : (ofMarch year doy).next = ofMarch year (doy + 1) := by
  rw [ofMarch_eq hmp hle (Nat.lt_of_succ_lt hlt), ofMarch_eq hmp (Nat.le_succ_of_le hle) hlt, next,
    if_pos]
  · simp only [Date.mk.injEq, true_and]
    omega
  · dsimp only
    rw [monthLength_eq hmp]
    omega

/-- The day after the last of a month. -/
lemma next_ofMarch_of_eq (hmp : mp < 12) (hle : monthStart mp ≤ doy)
    (heq : doy + 1 = monthEnd year mp) : (ofMarch year doy).next =
      if mp < 9 then ⟨year, mp + 4, 1⟩ else ⟨year + 1, mp - 8, 1⟩ := by
  rw [ofMarch_eq hmp hle (Nat.lt_of_succ_le heq.le), next, if_neg]
  · dsimp only
    interval_cases mp <;> simp
  · dsimp only
    rw [monthLength_eq hmp]
    omega

lemma ofMarch_monthStart (hmp : mp < 12) :
    ofMarch year (monthStart mp) =
      if mp < 10 then ⟨year, mp + 3, 1⟩ else ⟨year + 1, mp - 9, 1⟩ := by
  have hlt : monthStart mp < monthEnd year mp := by
    unfold monthEnd marchLength monthStart
    split_ifs <;> omega
  rw [ofMarch_eq hmp le_rfl hlt, Nat.sub_self]
  split_ifs <;> rfl

/-- The day after one within such a year. -/
lemma next_ofMarch (h : doy + 1 < marchLength year) :
    (ofMarch year doy).next = ofMarch year (doy + 1) := by
  obtain ⟨mp, hmp, hle, hlt⟩ := exists_month (Nat.lt_of_succ_lt h)
  rcases Nat.lt_or_ge (doy + 1) (monthEnd year mp) with hwithin | hend
  · exact next_ofMarch_of_lt hmp hle hwithin
  · have heq : doy + 1 = monthEnd year mp := by omega
    have hmp' : mp < 11 := by
      by_contra hfebruary
      rw [monthEnd, if_neg hfebruary] at hend
      omega
    have hstart : monthEnd year mp = monthStart (mp + 1) := if_pos hmp'
    rw [next_ofMarch_of_eq hmp hle heq, heq, hstart, ofMarch_monthStart (Nat.succ_lt_succ hmp')]
    split_ifs <;> simp <;> omega

/-- The day after the last of such a year. -/
lemma next_ofMarch_last (h : doy + 1 = marchLength year) :
    (ofMarch year doy).next = ofMarch (year + 1) 0 := by
  have hle : monthStart 11 ≤ doy := by
    unfold marchLength at h
    unfold monthStart
    split at h <;> omega
  have hfirst : ofMarch (year + 1) 0 = ⟨year + 1, 3, 1⟩ :=
    ofMarch_monthStart (show 0 < 12 by decide)
  rw [next_ofMarch_of_eq (show 11 < 12 by decide) hle h, hfirst]
  rfl

/-- The day of a date by way of the year and the month. -/
lemma toDays_ofMarch (h : doy < marchLength year) :
    (ofMarch year doy).toDays = marchDay year + doy - 719468 := by
  obtain ⟨mp, hmp, hle, hlt⟩ := exists_month h
  have hstart : marchDay year = year / 400 * 146097 + daysBefore (year % 400).toNat := by
    have hera := marchDay_era (year / 400) (year % 400).toNat
    rw [show ((year % 400).toNat : Int) + year / 400 * 400 = year by omega] at hera
    omega
  have hdoy : monthStart mp + (doy - monthStart mp + 1) - 1 = doy := by omega
  rw [ofMarch_eq hmp hle hlt]
  by_cases hfirst : mp < 10
  · have hmonth : ¬ mp + 3 ≤ 2 := by omega
    simp only [toDays, if_pos hfirst, if_neg hmonth, Nat.add_sub_cancel]
    rw [← monthStart, hdoy]
    omega
  · have hmonth : mp - 9 ≤ 2 := by omega
    have hmp' : mp - 9 + 9 = mp := by omega
    simp only [toDays, if_neg hfirst, if_pos hmonth, hmp', Int.add_sub_cancel]
    rw [← monthStart, hdoy]
    omega

end Months

/-! ### Dates of days -/

theorem ofDays_zero : ofDays 0 = ⟨1970, 1, 1⟩ := by decide +kernel

theorem valid_ofDays (n : Int) : (ofDays n).Valid := by
  obtain ⟨year, doy, hn, hdoy⟩ := exists_march (n + 719468)
  rw [ofDays_eq hn hdoy]
  exact valid_ofMarch hdoy

theorem ofDays_succ (n : Int) : ofDays (n + 1) = (ofDays n).next := by
  obtain ⟨year, doy, hn, hdoy⟩ := exists_march (n + 719468)
  rw [ofDays_eq hn hdoy]
  rcases Nat.lt_or_ge (doy + 1) (marchLength year) with hwithin | hend
  · rw [next_ofMarch hwithin]
    exact ofDays_eq (by omega) hwithin
  · have hlast : doy + 1 = marchLength year := by omega
    have hnext := marchDay_succ year
    rw [next_ofMarch_last hlast]
    refine ofDays_eq (by omega) ?_
    unfold marchLength
    split <;> decide

/-- The date of a day is the one that counting comes to. -/
theorem counted_iff {n : Int} {d : Date} : Counted n d ↔ d = ofDays n := by
  constructor
  · intro h
    induction h with
    | epoch => exact ofDays_zero.symm
    | @next n d _ ih => rw [ih, ofDays_succ]
    | @previous n d hvalid _ ih =>
      rw [ofDays_succ] at ih
      exact next_injective hvalid (valid_ofDays n) ih
  · rintro rfl
    induction n with
    | zero =>
      rw [ofDays_zero]
      exact .epoch
    | succ n ih =>
      rw [ofDays_succ]
      exact .next ih
    | pred n ih =>
      refine .previous (valid_ofDays _) ?_
      rw [← ofDays_succ]
      simpa using ih

/-- Dates are in the order of their days. -/
theorem ofDays_before {m n : Int} (h : m < n) : (ofDays m).Before (ofDays n) := by
  induction n, (show m + 1 ≤ n from h) using Int.leInduction with
  | base =>
    rw [ofDays_succ]
    exact before_next _
  | succ n hmn ih =>
    rw [ofDays_succ n]
    exact (ih hmn).trans (before_next _)

theorem toDays_ofDays (n : Int) : (ofDays n).toDays = n := by
  obtain ⟨year, doy, hn, hdoy⟩ := exists_march (n + 719468)
  rw [ofDays_eq hn hdoy, toDays_ofMarch hdoy]
  omega

end TrafficFeed.Clock.Date
