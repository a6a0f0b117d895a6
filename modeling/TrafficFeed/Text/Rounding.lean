/-!
# Whole numbers at binary precision

A whole number as it reads after it was kept to 53 binary digits: rounded to the nearest number
that has so many, a half going to the even one, and written by the fewest decimal digits that are
rounded to the same number, the remaining places being zero.
-/

namespace TrafficFeed.Text

/-- How many binary digits are kept. -/
def precision : Nat := 53

/-- The nearest multiple of `unit`; a half goes to the even multiple. -/
def nearestMultiple (unit n : Nat) : Nat :=
  let q := n / unit
  let r := n % unit
  if 2 * r < unit ∨ (2 * r = unit ∧ q % 2 = 0) then q * unit else (q + 1) * unit

/-- The distance between neighbouring numbers around `n`. -/
def spacing (n : Nat) : Nat := 1 <<< (Nat.log2 n + 1 - precision)

/-- The number of 53 binary digits nearest to `n`. -/
def toPrecision (n : Nat) : Nat := nearestMultiple (spacing n) n

/-- Of the multiples of `10 ^ k` next to `n`, the nearer that is rounded to `n`. -/
def onGrid? (n k : Nat) : Option Nat :=
  let step := Nat.pow 10 k
  let low := n / step * step
  let high := low + step
  match toPrecision low == n, toPrecision high == n with
  | true, true => some (if n - low ≤ high - n then low else high)
  | true, false => some low
  | false, true => some high
  | false, false => none

/-- The number on the coarsest decimal grid that is rounded to `n`, from the grid `10 ^ k` down. -/
def coarsest (n : Nat) : Nat → Nat
  | 0 => n
  | k + 1 => (onGrid? n (k + 1)).getD (coarsest n k)

/-- The decimal text of `n` at binary precision. -/
def roundedText (n : Nat) : String :=
  let m := toPrecision n
  toString (coarsest m (Nat.toDigits 10 m).length)

/-- The decimal text of an integer at binary precision. -/
def roundedIntText (n : Int) : String :=
  if n < 0 then "-" ++ roundedText n.natAbs else roundedText n.natAbs

example : roundedText (2 ^ 53 + 1) = "9007199254740992" := by decide +kernel

example : roundedText (2 ^ 64 - 1) = "18446744073709552000" := by decide +kernel

end TrafficFeed.Text
