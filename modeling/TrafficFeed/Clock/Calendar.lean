/-!
# The calendar

Days are counted from 1 January 1970 in the Gregorian calendar, extended over all years. A year
is taken to begin in March, so that the day a leap year adds is its last; four hundred such years
make an era of 146097 days.
-/

namespace TrafficFeed.Clock

structure Date where
  year : Int
  month : Nat
  day : Nat
  deriving DecidableEq, Repr

namespace Date

/-- The day of the era `doe` as year of the era, counted from March. -/
def yearOfEra (doe : Nat) : Nat := (doe - doe / 1460 + doe / 36524 - doe / 146096) / 365

/-- The days of an era before its year `yoe`. -/
def daysBefore (yoe : Nat) : Nat := 365 * yoe + yoe / 4 - yoe / 100

/-- The date of a day. -/
def ofDays (days : Int) : Date :=
  let z := days + 719468
  let era := z / 146097
  let doe := (z % 146097).toNat
  let yoe := yearOfEra doe
  let doy := doe - daysBefore yoe
  let mp := (5 * doy + 2) / 153
  let day := doy - (153 * mp + 2) / 5 + 1
  let month := if mp < 10 then mp + 3 else mp - 9
  let year := yoe + era * 400 + (if month ≤ 2 then 1 else 0)
  ⟨year, month, day⟩

/-- The day of a date. -/
def toDays (d : Date) : Int :=
  let y := if d.month ≤ 2 then d.year - 1 else d.year
  let era := y / 400
  let yoe := (y % 400).toNat
  let mp := if d.month ≤ 2 then d.month + 9 else d.month - 3
  let doy := (153 * mp + 2) / 5 + d.day - 1
  era * 146097 + (daysBefore yoe + doy : Nat) - 719468

/-- A year has 366 days if it is divisible by four, and by four hundred if by a hundred. -/
def isLeap (year : Int) : Bool := year % 4 = 0 && (year % 100 ≠ 0 || year % 400 = 0)

def monthLength (year : Int) (month : Nat) : Nat :=
  match month with
  | 2 => if isLeap year then 29 else 28
  | 4 | 6 | 9 | 11 => 30
  | _ => 31

end Date

end TrafficFeed.Clock
