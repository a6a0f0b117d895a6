import TrafficFeed.Text.Numeral
import TrafficFeed.Text.Property

/-!
# Durations

A duration is a number of nanoseconds; its seconds fit in 64 bits. It is written as a sum of
numbers with units, such as `1h 30m` or `1.5s`, with blanks wherever they do no harm. The reader
takes one character after the other; what it says of a fault names the octet at which it stood.
-/

namespace TrafficFeed.Clock.Duration

open TrafficFeed.Text

/-- The nanoseconds of a second. -/
def second : Nat := 1000000000

/-- What 64 bits hold is below this. -/
def wordBound : Nat := UInt64.size

/-- Why a text is no duration. -/
inductive Error where
  | empty
  | numberExpected (position : Nat)
  | invalidCharacter (position : Nat)
  | unitMissing (number : Nat)
  | unknownUnit (unit : String)
  /-- It is too long, or no whole number of nanoseconds. -/
  | unrepresentable
  /-- It is by less than a second too long. -/
  | overflow
  deriving DecidableEq, Repr

def Error.message : Error → String
  | .empty => "value was empty"
  | .numberExpected position => "expected number at " ++ toString position
  | .invalidCharacter position => "invalid character at " ++ toString position
  | .unitMissing number =>
    "time unit needed, for example " ++ toString number ++ "sec or " ++ toString number ++ "ms"
  | .unknownUnit unit =>
    "unknown time unit \"" ++ unit ++ "\", supported units: ns, us/µs, ms, sec, min, hours, " ++
      "days, weeks, months, years (and few variations)"
  | .unrepresentable =>
    "number is too large or cannot be represented without a lack of precision " ++
      "(values below 1ns are not supported)"
  | .overflow => "overflow in Duration::new"

/-! ### Units -/

inductive Unit where
  | nanosecond
  | microsecond
  | millisecond
  | second
  | minute
  | hour
  | day
  | week
  | month
  | year
  deriving DecidableEq, Repr

namespace Unit

/-- The unit of a word. Case matters: `m` is a minute and `M` a month. -/
def ofWord? : String → Option Unit
  | "nanos" | "nsec" | "ns" => some nanosecond
  | "usec" | "us" | "µs" => some microsecond
  | "millis" | "msec" | "ms" => some millisecond
  | "seconds" | "second" | "secs" | "sec" | "s" => some second
  | "minutes" | "minute" | "min" | "mins" | "m" => some minute
  | "hours" | "hour" | "hrs" | "hr" | "h" => some hour
  | "days" | "day" | "d" => some day
  | "weeks" | "week" | "wks" | "wk" | "w" => some week
  | "months" | "month" | "M" => some month
  | "years" | "year" | "yrs" | "yr" | "y" => some year
  | _ => none

/-- A unit below the second, by its nanoseconds, or else by its seconds. A month is the twelfth
part of a year of 365.25 days. -/
def scale : Unit → Nat × Nat
  | nanosecond => (0, 1)
  | microsecond => (0, 1000)
  | millisecond => (0, 1000000)
  | second => (1, 0)
  | minute => (60, 0)
  | hour => (3600, 0)
  | day => (86400, 0)
  | week => (604800, 0)
  | month => (2630016, 0)
  | year => (31557600, 0)

/-- The same for a fraction of the unit: a fraction of a second or of a minute counts in
nanoseconds, one of a longer unit in whole seconds. A nanosecond has no fraction. -/
def fractionScale? : Unit → Option (Nat × Nat)
  | nanosecond => none
  | second => some (0, 1000000000)
  | minute => some (0, 60000000000)
  | u => some u.scale

end Unit

/-! ### Sums -/

/-- A sum so far: whole seconds, and nanoseconds that make less than one. -/
structure Sum where
  secs : Nat
  nanos : Nat
  deriving DecidableEq, Repr

def Sum.zero : Sum := ⟨0, 0⟩

/-- The sum in nanoseconds. -/
def Sum.total (s : Sum) : Nat := s.secs * second + s.nanos

def Sum.add (s : Sum) (secs nanos : Nat) : Except Error Sum :=
  let n := s.nanos + nanos
  if wordBound ≤ n then .error .unrepresentable
  else if n = second then
    if wordBound ≤ s.secs + secs then .error .unrepresentable
    else if s.secs + secs + 1 = wordBound then .error .overflow
    else .ok ⟨s.secs + secs + 1, 0⟩
  else if wordBound ≤ s.secs + secs + n / second then .error .unrepresentable
  else .ok ⟨s.secs + secs + n / second, n % second⟩

/-- A product that fits in 64 bits. -/
def product (a b : Nat) : Except Error Nat :=
  if a * b < wordBound then .ok (a * b) else .error .unrepresentable

/-- A quotient without remainder. -/
def quotient (a b : Nat) : Except Error Nat :=
  if a % b = 0 then .ok (a / b) else .error .unrepresentable

/-- The digits after a point, and the power of ten that they are parts of. -/
structure Fraction where
  digits : Nat
  parts : Nat
  deriving DecidableEq, Repr

/-- Adds a number of units, with a fraction of one if there is one. -/
def Sum.addUnits (s : Sum) (number : Nat) (fraction : Option Fraction) (unit : String) :
    Except Error Sum := do
  match Unit.ofWord? unit with
  | none => .error (if unit.isEmpty then .unitMissing number else .unknownUnit unit)
  | some u =>
    let (secs, nanos) := u.scale
    let s ← s.add (← product number secs) (← product number nanos)
    match fraction with
    | none => .ok s
    | some f =>
      match u.fractionScale? with
      | none => .error .unrepresentable
      | some (secs, nanos) =>
        let secs ← quotient (← product f.digits secs) f.parts
        let nanos ← quotient (← product f.digits nanos) f.parts
        s.add secs nanos

/-! ### Reading -/

/-- Where the reader stands. -/
inductive Phase where
  /-- Before a number, since the octet `start`. -/
  | gap (start : Nat)
  | number (value : Nat)
  /-- After the point of a number. `mark` is the octet that a fault is put down to. -/
  | fraction (number : Nat) (f : Fraction) (mark : Nat)
  /-- Within a unit, whose letters so far are in reverse. -/
  | unit (number : Nat) (f : Option Fraction) (letters : List Char)
  deriving Repr

/-- The reader: the sum of what has been read, if anything has, and the octet it stands at. -/
structure Reader where
  sum : Option Sum
  phase : Phase
  position : Nat
  deriving Repr

def isUnitLetter (c : Char) : Bool :=
  ('a' ≤ c && c ≤ 'z') || ('A' ≤ c && c ≤ 'Z') || c = 'µ'

/-- A number with one more digit. -/
def moreDigits (n d : Nat) : Except Error Nat :=
  if 10 * n + d < wordBound then .ok (10 * n + d) else .error .unrepresentable

/-- Adds the units just read. -/
def Reader.close (r : Reader) (number : Nat) (f : Option Fraction) (letters : List Char) :
    Except Error Sum :=
  (r.sum.getD Sum.zero).addUnits number f (String.ofList letters.reverse)

def Reader.step (r : Reader) (c : Char) : Except Error Reader := do
  let next := r.position + c.utf8Size
  let go (phase : Phase) : Except Error Reader := .ok { r with phase, position := next }
  match r.phase, decimalDigit? c with
  | .gap _, some d => go (.number d)
  | .gap start, none =>
    if isBlank c then go (.gap start) else .error (.numberExpected start)
  | .number n, some d => go (.number (← moreDigits n d))
  | .number n, none =>
    if isBlank c then go (.number n)
    else if isUnitLetter c then go (.unit n none [c])
    else if c = '.' then go (.fraction n ⟨0, 1⟩ r.position)
    else .error (.invalidCharacter r.position)
  | .fraction n f _, some d =>
    let parts ← product f.parts 10
    let digits ← moreDigits f.digits d
    go (.fraction n ⟨digits, parts⟩ next)
  | .fraction n f mark, none =>
    if isBlank c then go (.fraction n f next)
    else if isUnitLetter c && f.parts ≠ 1 then go (.unit n (some f) [c])
    else .error (.invalidCharacter mark)
  | .unit n f letters, some d =>
    .ok ⟨some (← r.close n f letters), .number d, next⟩
  | .unit n f letters, none =>
    if isBlank c then .ok ⟨some (← r.close n f letters), .gap next, next⟩
    else if isUnitLetter c then go (.unit n f (c :: letters))
    else .error (.invalidCharacter r.position)

/-- The sum at the end of the text. -/
def Reader.finish (r : Reader) : Except Error Sum :=
  match r.phase with
  | .gap _ =>
    match r.sum with
    | some s => .ok s
    | none => .error .empty
  | .number n => r.close n none []
  | .fraction n f mark =>
    if f.parts = 1 then .error (.invalidCharacter mark) else r.close n (some f) []
  | .unit n f letters => r.close n f letters

/-- Reads a duration. A zero needs no unit. -/
def parse (s : String) : Except Error Nat :=
  if s = "0" then .ok 0
  else do
    let r ← s.toList.foldlM Reader.step ⟨none, .gap 0, 0⟩
    return (← r.finish).total

/-! ### Showing -/

/-- The digits of a fraction of `10 ^ width` parts after the point, without zeros at the end. -/
def fractionText (width n : Nat) : String :=
  if n = 0 then ""
  else
    let digits := (padded width n).toList
    "." ++ String.ofList (digits.reverse.dropWhile (· = '0')).reverse

/-- A duration in the largest of the units `s`, `ms`, `µs` and `ns` that it fills. -/
def text (ns : Nat) : String :=
  if second ≤ ns then toString (ns / second) ++ fractionText 9 (ns % second) ++ "s"
  else if 1000000 ≤ ns then toString (ns / 1000000) ++ fractionText 6 (ns % 1000000) ++ "ms"
  else if 1000 ≤ ns then toString (ns / 1000) ++ fractionText 3 (ns % 1000) ++ "µs"
  else toString ns ++ "ns"

end TrafficFeed.Clock.Duration
