import TrafficFeed.Clock.Calendar
import TrafficFeed.Text.Numeral

/-!
# Instants

A moment in universal time, to the nanosecond. Within the last second of a minute the fraction
may run on for another second: such an instant is written with second 60. Its texts are what a clock
shows then, in universal time or in a zone of its own; they cut the fraction off and never round it.
-/

namespace TrafficFeed.Clock

open TrafficFeed.Text

/-- The first second of the earliest year, -262143. -/
def firstSecond : Int := -8334601228800

/-- The last second of the latest year, 262142. -/
def lastSecond : Int := 8210266876799

/-- A moment: the seconds since 1970 and the nanoseconds since that second began. Left out are the
moments whose fraction runs on for another second in the middle of a minute: a moment can be given
such a fraction in the place of its own, but no clock tells it. -/
structure Instant where
  secs : Int
  nanos : Nat
  secs_ge : firstSecond ≤ secs
  secs_le : secs ≤ lastSecond
  nanos_lt : nanos < 2000000000
  leap : 1000000000 ≤ nanos → secs % 60 = 59
  deriving DecidableEq, Repr

namespace Instant

/-- The moment `nanos` after the second `secs`, if the calendar holds it. -/
def ofUnix? (secs : Int) (nanos : Nat) : Option Instant :=
  if h : (firstSecond ≤ secs ∧ secs ≤ lastSecond) ∧ nanos < 2000000000 ∧
      (1000000000 ≤ nanos → secs % 60 = 59) then
    some ⟨secs, nanos, h.1.1, h.1.2, h.2.1, h.2.2⟩
  else none

def epoch : Instant := ⟨0, 0, by decide, by decide, by decide, by decide⟩

end Instant

/-- What a clock shows: the seconds since it showed the beginning of 1970, and the nanoseconds since
the last second began. -/
structure Reading where
  secs : Int
  nanos : Nat
  deriving DecidableEq, Repr

namespace Reading

def date (r : Reading) : Date := Date.ofDays (r.secs / 86400)

def secondOfDay (r : Reading) : Nat := (r.secs % 86400).toNat

def hour (r : Reading) : Nat := r.secondOfDay / 3600

def minute (r : Reading) : Nat := r.secondOfDay / 60 % 60

/-- The second of the minute; one more within a leap second. -/
def second (r : Reading) : Nat := r.secondOfDay % 60 + r.nanos / 1000000000

/-- The nanoseconds since the second began. -/
def fraction (r : Reading) : Nat := r.nanos % 1000000000

/-- A year by four digits; a year before 0 or after 9999 bears its sign. -/
def yearText (year : Int) : String :=
  if year < 0 then "-" ++ padded 4 year.natAbs
  else if 9999 < year then "+" ++ padded 4 year.natAbs
  else padded 4 year.natAbs

/-- The date as `YYYY-MM-DD`. -/
def dateText (r : Reading) : String :=
  yearText r.date.year ++ "-" ++ padded 2 r.date.month ++ "-" ++ padded 2 r.date.day

/-- The time of day as `HH:MM:SS`. -/
def timeText (r : Reading) : String :=
  padded 2 r.hour ++ ":" ++ padded 2 r.minute ++ ":" ++ padded 2 r.second

/-- Date and time of day to the microsecond: `YYYY-MM-DD HH:MM:SS.uuuuuu`. -/
def logTime (r : Reading) : String :=
  r.dateText ++ " " ++ r.timeText ++ "." ++ padded 6 (r.fraction / 1000)

end Reading

namespace Instant

/-- What a clock shows that is `offset` seconds ahead of universal time. -/
def reading (t : Instant) (offset : Int) : Reading := ⟨t.secs + offset, t.nanos⟩

def universal (t : Instant) : Reading := t.reading 0

/-- Date and time of day to the millisecond: `YYYY-MM-DDTHH:MM:SS.mmmZ`. -/
def timestamp (t : Instant) : String :=
  t.universal.dateText ++ "T" ++ t.universal.timeText ++ "." ++
    padded 3 (t.universal.fraction / 1000000) ++ "Z"

/-- Date and time of day to the microsecond, in universal time. -/
def logTime (t : Instant) : String := t.universal.logTime

end Instant

end TrafficFeed.Clock
