import TrafficFeed.Json.Basic
import TrafficFeed.Text.Numeral

/-!
# JSON numbers

The reading of a number literal. An integer within 64 bits keeps its value; every other literal
is a decimal whose digits are kept as long as they fit in 64 bits. A literal beyond the range of
a double is refused.
-/

namespace TrafficFeed.Json.Number

open TrafficFeed.Text

/-! ### The parts of a literal -/

/-- A literal split by the grammar `-? digits (. digits)? ([eE] [+-]? digits)?`. -/
structure Literal where
  negative : Bool
  whole : List Nat
  fraction : Option (List Nat)
  exponent : Option Int
  deriving Repr

/-- The digits at the front of a text, and what follows them. -/
def spanDigits : List Char → List Nat × List Char
  | [] => ([], [])
  | c :: cs =>
    match decimalDigit? c with
    | some d => let r := spanDigits cs; (d :: r.1, r.2)
    | none => ([], c :: cs)

def ofDigits (ds : List Nat) : Nat := ds.foldl (10 * · + ·) 0

/-- Splits the exponent off, if there is one; it ends the literal. -/
def exponent? : List Char → Option (Option Int)
  | [] => some none
  | c :: cs =>
    if c = 'e' ∨ c = 'E' then
      let (negative, cs) := match cs with
        | '-' :: r => (true, r)
        | '+' :: r => (false, r)
        | r => (false, r)
      match spanDigits cs with
      | (d :: ds, []) =>
        let n : Int := ofDigits (d :: ds)
        some (some (if negative then -n else n))
      | _ => none
    else none

/-- Splits a literal; `none` if it does not follow the grammar. A whole part of several digits
does not begin with zero. -/
def Literal.ofChars? (cs : List Char) : Option Literal := do
  let (negative, cs) := match cs with
    | '-' :: r => (true, r)
    | r => (false, r)
  match spanDigits cs with
  | ([], _) => none
  | (0 :: _ :: _, _) => none
  | (whole, '.' :: rest) =>
    match spanDigits rest with
    | ([], _) => none
    | (fraction, rest) => do
      let e ← exponent? rest
      some ⟨negative, whole, some fraction, e⟩
  | (whole, rest) => do
    let e ← exponent? rest
    some ⟨negative, whole, none, e⟩

/-! ### Kept digits -/

/-- The least number that does not fit in 64 bits. -/
def wordBound : Nat := UInt64.size

/-- Appends digits while the number fits in a word. Gives the number and the digits not taken. -/
def takeDigits : Nat → List Nat → Nat × List Nat
  | n, [] => (n, [])
  | n, d :: ds => if 10 * n + d < wordBound then takeDigits (10 * n + d) ds else (n, d :: ds)

/-- The greatest magnitude of an exponent that is read as it stands. -/
def exponentBound : Nat := UInt32.size / 2

/-- The decimal that a literal stands for, to as many leading digits as fit in a word: each whole
digit that does not fit raises the exponent by one, and each fraction digit taken lowers it. -/
def Literal.kept (l : Literal) : Nat × Int :=
  let (n, excess) := takeDigits 0 l.whole
  let fraction := l.fraction.getD []
  let (m, unread) := takeDigits n fraction
  (m, (excess.length : Int) - ((fraction.length - unread.length : Nat) : Int) + l.exponent.getD 0)

/-! ### The range of a double -/

/-- The integer with 53 significant binary digits that is nearest to `n`, ties to even. -/
def roundToDouble (n : Nat) : Nat :=
  let excess := n.log2 + 1 - 53
  let unit := 1 <<< excess
  let q := n / unit
  let r := n % unit
  if 2 * r < unit ∨ (2 * r = unit ∧ q % 2 = 0) then q * unit else (q + 1) * unit

/-- From here on a number rounds beyond the greatest finite double. -/
def doubleBound : Nat := 1 <<< 1024 - 1 <<< 970

/-- Whether `digits · 10 ^ exponent`, computed as the product of two doubles, is infinite. -/
def overflows (digits : Nat) (exponent : Int) : Bool :=
  if digits = 0 ∨ exponent < 0 then false
  else if 308 < exponent then true
  else doubleBound ≤ roundToDouble digits * roundToDouble (Nat.pow 10 exponent.toNat)

/-! ### Values -/

/-- The value of a literal; `none` if it lies beyond the range of a double. -/
def Literal.value? (l : Literal) : Option Number :=
  let n := ofDigits l.whole
  if l.fraction = none ∧ l.exponent = none ∧ n < wordBound ∧
      (l.negative → 0 < n ∧ n ≤ UInt64.size / 2) then
    some (.int (if l.negative then -n else n))
  else
    let (digits, exponent) := l.kept
    if (l.exponent.getD 0).natAbs < exponentBound then
      if overflows digits exponent then none else some (.decimal l.negative digits exponent)
    else if digits ≠ 0 ∧ 0 < l.exponent.getD 0 then none
    else some (.decimal l.negative 0 0)

def ofChars? (cs : List Char) : Option Number := do (← Literal.ofChars? cs).value?

end TrafficFeed.Json.Number
