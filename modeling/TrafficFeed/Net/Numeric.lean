import TrafficFeed.Net.Address
import TrafficFeed.Text.Cut

/-!
# Numeric forms of addresses

An address of version four may be written with fewer than four numbers, and the numbers may be
octal or hexadecimal ones: `127.1`, `0x7f.1` and `017700000001` are the same address.
-/

namespace TrafficFeed.Net

open TrafficFeed.Text

/-- The digits of a number and their base: `0x` stands before hexadecimal digits, and a zero
before octal ones. -/
def baseAndDigits (cs : List Char) : Nat × List Char :=
  match cs with
  | '0' :: 'x' :: rest | '0' :: 'X' :: rest => (16, rest)
  | '0' :: c :: rest => (8, c :: rest)
  | _ => (10, cs)

/-- The value of a digit below a base. -/
def digitBelow? (base : Nat) (c : Char) : Option Nat :=
  (hexDigit? c).bind fun d => if d < base then some d else none

/-- The address whose parts are given: all but the last are octets, and the last fills the
octets that remain. -/
def Ipv4.ofNumbers? (numbers : List Nat) : Option Ipv4 :=
  match numbers.reverse with
  | [] => none
  | last :: front =>
    if 4 < numbers.length ∨ 1 <<< (8 * (5 - numbers.length)) ≤ last ∨ front.any (255 < ·) then none
    else
      let n := front.foldl (fun m octet => (octet <<< 24) + (m >>> 8)) 0 + last
      some ⟨UInt8.ofNat (n / 16777216), UInt8.ofNat (n / 65536), UInt8.ofNat (n / 256),
        UInt8.ofNat n⟩

/-- The address that one to four numbers write, each with at least one digit. -/
def Ipv4.ofNumericText? (cs : List Char) : Option Ipv4 := do
  let number? (part : List Char) : Option Nat :=
    let (base, digits) := baseAndDigits part
    if digits.isEmpty then none else ofDigits? (digitBelow? base) base digits
  Ipv4.ofNumbers? (← (cut '.' cs).mapM number?)

end TrafficFeed.Net
