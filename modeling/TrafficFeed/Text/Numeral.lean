/-!
# Numerals

Decimal numbers at a least width, and the reading of numbers: of the digits of any base, and of
decimal words that must fit a given bound.
-/

namespace TrafficFeed.Text

/-- The value of a decimal digit. -/
def decimalDigit? (c : Char) : Option Nat :=
  if '0' ≤ c ∧ c ≤ '9' then some (c.toNat - 48) else none

/-- The decimal text of `n`, with zeros in front up to the given width. -/
def padded (width n : Nat) : String :=
  let digits := Nat.toDigits 10 n
  String.ofList (List.replicate (width - digits.length) '0' ++ digits)

/-- The value of a list of digits, most significant first; `none` if one is no digit. -/
def ofDigits? (digit : Char → Option Nat) (base : Nat) (cs : List Char) : Option Nat :=
  cs.foldlM (fun n c => (digit c).map (base * n + ·)) 0

/-- Why a text is no unsigned number below a bound. -/
inductive NumeralError where
  | empty
  | invalidDigit
  | tooLarge
  deriving DecidableEq, Repr

/-- What is said of a text that is no number. -/
def NumeralError.message : NumeralError → String
  | .empty => "cannot parse integer from empty string"
  | .invalidDigit => "invalid digit found in string"
  | .tooLarge => "number too large to fit in target type"

/-- Reads decimal digits from the left; the first fault met decides. -/
def readDigits (bound : Nat) : Nat → List Char → Except NumeralError Nat
  | n, [] => .ok n
  | n, c :: cs =>
    match decimalDigit? c with
    | none => .error .invalidDigit
    | some d => if 10 * n + d < bound then readDigits bound (10 * n + d) cs else .error .tooLarge

/-- Reads an unsigned number below `bound`: decimal digits after an optional plus sign. -/
def readNumeral (bound : Nat) (s : String) : Except NumeralError Nat :=
  match s.toList with
  | [] => .error .empty
  | ['+'] | ['-'] => .error .invalidDigit
  | '+' :: cs => readDigits bound 0 cs
  | cs => readDigits bound 0 cs

end TrafficFeed.Text
