import TrafficFeed.Clock.Instant
import TrafficFeed.Proofs.Clock.Calendar
import TrafficFeed.Proofs.Text.Numeral
import TrafficFeed.Proofs.Text.Octets

/-!
# Timestamps

In the years that four digits hold, a timestamp shows the date and the time of day of its moment,
cut off at the millisecond, in a form of 24 characters, from which the moment is read back to the
millisecond. Timestamps are in the order of their moments.
-/

namespace TrafficFeed

open TrafficFeed.Clock TrafficFeed.Text

namespace Clock

/-! ### Moments -/

namespace Instant

/-- The order of moments. The prolonged last second of a minute comes before the next minute. -/
instance : LE Instant where
  le t u := t.secs < u.secs ∨ t.secs = u.secs ∧ t.nanos ≤ u.nanos

/-- The moment cut off at the millisecond. -/
def toMillis (t : Instant) : Instant where
  secs := t.secs
  nanos := t.nanos / 1000000 * 1000000
  secs_ge := t.secs_ge
  secs_le := t.secs_le
  nanos_lt := Nat.lt_of_le_of_lt (Nat.div_mul_le_self _ _) t.nanos_lt
  leap h := t.leap (Nat.le_trans h (Nat.div_mul_le_self _ _))

/-- A moment of the years 0 to 9999. -/
def FourDigits (t : Instant) : Prop := 0 ≤ t.universal.date.year ∧ t.universal.date.year ≤ 9999

instance : DecidablePred FourDigits :=
  fun t => inferInstanceAs (Decidable (0 ≤ t.universal.date.year ∧ t.universal.date.year ≤ 9999))

/-- What a clock of universal time shows at a moment; within a leap second, the second 60. -/
structure Shows (t : Instant) (date : Date) (hour minute second milli : Nat) : Prop where
  counted : Date.Counted (t.secs / 86400) date
  hour_lt : hour < 24
  minute_lt : minute < 60
  second_eq : ∃ s < 60, second = s + t.nanos / 1000000000 ∧
    t.secs % 86400 = (3600 * hour + 60 * minute + s : Nat)
  milli_eq : milli = t.nanos % 1000000000 / 1000000

/-- The places of a timestamp, each with its mark: `YYYY-MM-DDTHH:MM:SS.mmmZ`. -/
def stampForm : List (Nat × Char) :=
  [(4, '-'), (2, '-'), (2, 'T'), (2, ':'), (2, ':'), (2, '.'), (3, 'Z')]

/-- The moment that a timestamp shows. -/
def ofTimestamp? (s : String) : Option Instant :=
  match readRow? stampForm s.toList with
  | some [year, month, day, hour, minute, second, milli] =>
    ofUnix? (Date.toDays ⟨year, month, day⟩ * 86400 +
        (3600 * hour + 60 * minute + min second 59 : Nat))
      ((second - 59) * 1000000000 + milli * 1000000)
  | _ => none

def stampNumbers (t : Instant) : List Nat :=
  [t.universal.date.year.toNat, t.universal.date.month, t.universal.date.day, t.universal.hour,
    t.universal.minute, t.universal.second, t.universal.fraction / 1000000]

variable {t u : Instant}

lemma universal_eq (t : Instant) : t.universal = ⟨t.secs, t.nanos⟩ := by
  simp [universal, reading]

lemma toList_timestamp (h : t.FourDigits) : t.timestamp.toList = row stampForm t.stampNumbers := by
  obtain ⟨hfirst, hlast⟩ := h
  have hnat : t.universal.date.year.natAbs = t.universal.date.year.toNat := by omega
  have hyear : Reading.yearText t.universal.date.year =
      padded 4 t.universal.date.year.toNat := by
    rw [Reading.yearText, if_neg (Int.not_lt.mpr hfirst), if_neg (Int.not_lt.mpr hlast), hnat]
  simp [timestamp, Reading.dateText, Reading.timeText, hyear, row, stampForm, stampNumbers]

lemma date_eq (t : Instant) : t.universal.date = Date.ofDays (t.secs / 86400) := by
  rw [universal_eq]
  rfl

/-- The time of day of a moment. -/
lemma time_eq (t : Instant) : t.universal.hour < 24 ∧ t.universal.minute < 60 ∧
    ∃ s < 60, t.universal.second = s + t.nanos / 1000000000 ∧
      t.secs % 86400 = (3600 * t.universal.hour + 60 * t.universal.minute + s : Nat) := by
  rw [universal_eq]
  simp only [Reading.hour, Reading.minute, Reading.second, Reading.secondOfDay]
  refine ⟨by omega, by omega, (t.secs % 86400).toNat % 60, by omega, rfl, by omega⟩

lemma milli_eq (t : Instant) : t.universal.fraction / 1000000 = t.nanos % 1000000000 / 1000000 := by
  rw [universal_eq]
  rfl

theorem shows_universal (t : Instant) :
    t.Shows t.universal.date t.universal.hour t.universal.minute t.universal.second
      (t.universal.fraction / 1000000) where
  counted := Date.counted_iff.mpr t.date_eq
  hour_lt := t.time_eq.1
  minute_lt := t.time_eq.2.1
  second_eq := t.time_eq.2.2
  milli_eq := t.milli_eq

lemma fits_stampNumbers (h : t.FourDigits) : Fits stampForm t.stampNumbers := by
  obtain ⟨hmonth, hmonth_le, hday, hday_le⟩ := Date.valid_ofDays (t.secs / 86400)
  rw [← date_eq] at hmonth hmonth_le hday hday_le
  have hlength : ∀ year month, Date.monthLength year month ≤ 31 := by
    intro year month
    unfold Date.monthLength
    split
    · split <;> decide
    all_goals decide
  have hdate := hlength t.universal.date.year t.universal.date.month
  obtain ⟨hhour, hminute, s, hs, hsecond, -⟩ := t.time_eq
  obtain ⟨hyear, hyear_le⟩ := h
  have hnanos := t.nanos_lt
  have hmilli := t.milli_eq
  refine .cons ⟨?_, ?_⟩ (.cons ⟨?_, ?_⟩ (.cons ⟨?_, ?_⟩ (.cons ⟨?_, ?_⟩ (.cons ⟨?_, ?_⟩
    (.cons ⟨?_, ?_⟩ (.cons ⟨?_, ?_⟩ .nil)))))) <;> dsimp only <;> omega

/-! ### Reading a timestamp -/

lemma ofUnix?_eq (t : Instant) : ofUnix? t.secs t.nanos = some t :=
  dif_pos ⟨⟨t.secs_ge, t.secs_le⟩, t.nanos_lt, t.leap⟩

theorem ofTimestamp?_timestamp (h : t.FourDigits) :
    ofTimestamp? t.timestamp = some t.toMillis := by
  have hyear : (t.universal.date.year.toNat : Int) = t.universal.date.year :=
    Int.toNat_of_nonneg h.1
  have hdays : Date.toDays ⟨t.universal.date.year.toNat, t.universal.date.month,
      t.universal.date.day⟩ = t.secs / 86400 := by
    rw [hyear]
    change t.universal.date.toDays = _
    rw [date_eq, Date.toDays_ofDays]
  obtain ⟨-, -, s, hs, hsecond, hsecs⟩ := t.time_eq
  have hmilli := t.milli_eq
  have hnanos := t.nanos_lt
  have hleap := t.leap
  have hsame : t.secs / 86400 * 86400 + (3600 * t.universal.hour + 60 * t.universal.minute +
      min t.universal.second 59 : Nat) = t.toMillis.secs := by
    dsimp only [toMillis]
    omega
  have hcut : (t.universal.second - 59) * 1000000000 +
      t.universal.fraction / 1000000 * 1000000 = t.toMillis.nanos := by
    dsimp only [toMillis]
    omega
  rw [ofTimestamp?, toList_timestamp h, readRow?_row (fits_stampNumbers h)]
  simp only [stampNumbers, hdays, hsame, hcut, ofUnix?_eq]

/-! ### The order of timestamps -/

/-- What a later millisecond shows comes later. -/
lemma stampNumbers_lt (ht : t.FourDigits)
    (h : t.secs < u.secs ∨ t.secs = u.secs ∧ t.nanos / 1000000 < u.nanos / 1000000) :
    t.stampNumbers < u.stampNumbers := by
  simp only [stampNumbers, List.cons_lt_cons_iff]
  rcases Int.lt_or_le (t.secs / 86400) (u.secs / 86400) with hday | hday
  · have hbefore := Date.ofDays_before hday
    rw [← date_eq, ← date_eq] at hbefore
    have hyear := ht.1
    unfold Date.Before at hbefore
    omega
  · have hsame : t.secs / 86400 = u.secs / 86400 := by omega
    have hdate : t.universal.date = u.universal.date := by rw [date_eq, date_eq, hsame]
    obtain ⟨-, hminute, s, hs, hsecond, hsecs⟩ := t.time_eq
    obtain ⟨-, hminute', s', hs', hsecond', hsecs'⟩ := u.time_eq
    have hmilli := t.milli_eq
    have hmilli' := u.milli_eq
    have hleap := t.leap
    rw [hdate]
    omega

lemma isAscii_timestamp (h : t.FourDigits) : IsAscii t.timestamp := by
  intro c hc
  rw [toList_timestamp h] at hc
  rcases mem_row hc with hdigit | hmark
  · exact Nat.lt_of_le_of_lt (Char.isDigit_iff_toNat.mp hdigit).2 (by decide)
  · have hall : ∀ place ∈ stampForm, place.2.toNat < 128 := by decide
    obtain ⟨place, hplace, rfl⟩ := List.mem_map.mp hmark
    exact hall place hplace

lemma timestamp_toMillis (t : Instant) : t.toMillis.timestamp = t.timestamp := by
  have hleap : t.nanos / 1000000 * 1000000 / 1000000000 = t.nanos / 1000000000 := by omega
  have hmilli : t.nanos / 1000000 * 1000000 % 1000000000 / 1000000 =
      t.nanos % 1000000000 / 1000000 := by omega
  simp [timestamp, universal_eq, toMillis, Reading.dateText, Reading.date, Reading.timeText,
    Reading.hour, Reading.minute, Reading.second, Reading.secondOfDay, Reading.fraction, hleap,
    hmilli]

lemma timestamp_eq_iff (ht : t.FourDigits) (hu : u.FourDigits) :
    t.timestamp = u.timestamp ↔ t.toMillis = u.toMillis := by
  constructor
  · intro h
    have hread := ofTimestamp?_timestamp ht
    rw [h, ofTimestamp?_timestamp hu] at hread
    exact (Option.some.inj hread).symm
  · intro h
    rw [← timestamp_toMillis t, h, timestamp_toMillis]

lemma octets_timestamp_le (ht : t.FourDigits) (hu : u.FourDigits) (h : t ≤ u) :
    octets t.timestamp ≤ octets u.timestamp := by
  by_cases hsame : t.secs = u.secs ∧ t.nanos / 1000000 = u.nanos / 1000000
  · have hmillis : t.toMillis = u.toMillis := by simp [toMillis, hsame]
    rw [(timestamp_eq_iff ht hu).mpr hmillis]
    exact List.le_refl _
  · have hlater : t.secs < u.secs ∨ t.secs = u.secs ∧ t.nanos / 1000000 < u.nanos / 1000000 := by
      change t.secs < u.secs ∨ t.secs = u.secs ∧ t.nanos ≤ u.nanos at h
      omega
    refine List.le_of_lt (octets_lt (isAscii_timestamp ht) (isAscii_timestamp hu) ?_)
    rw [toList_timestamp ht, toList_timestamp hu]
    exact row_lt_row (fits_stampNumbers ht) (fits_stampNumbers hu) (stampNumbers_lt ht hlater)

/-! ### Form and order -/

lemma length_timestamp (h : t.FourDigits) : t.timestamp.length = 24 := by
  rw [← String.length_toList, toList_timestamp h, length_row (fits_stampNumbers h)]
  rfl

lemma timestamp_eq (h : t.FourDigits) : t.timestamp =
    padded 4 t.universal.date.year.toNat ++ "-" ++ padded 2 t.universal.date.month ++ "-" ++
      padded 2 t.universal.date.day ++ "T" ++ padded 2 t.universal.hour ++ ":" ++
      padded 2 t.universal.minute ++ ":" ++ padded 2 t.universal.second ++ "." ++
      padded 3 (t.universal.fraction / 1000000) ++ "Z" := by
  rw [← String.toList_inj, toList_timestamp h]
  simp [row, stampForm, stampNumbers]

end Instant

end Clock

end TrafficFeed
