/-!
# Octets as text, whatever they are

Octets are read as UTF-8. Where they cannot be, the replacement character stands once for each
stretch that begins a character and does not go on as one, and once for each octet that begins
none.
-/

namespace TrafficFeed.Text

/-- A character of which the first octets have been read: its value so far, how many octets are
still due, and the bounds of the next. -/
structure Begun where
  value : Nat
  due : Nat
  low : Nat
  high : Nat
  deriving DecidableEq, Repr

/-- The state between two octets; the characters read are in reverse. -/
structure LossyState where
  read : List Char
  begun : Option Begun
  deriving Repr

/-- What an octet begins: a whole character, a longer one, or nothing. -/
def begin? (b : Nat) : Option (Char ⊕ Begun) :=
  if b < 0x80 then some (.inl (Char.ofNat b))
  else if 0xC2 ≤ b ∧ b ≤ 0xDF then some (.inr ⟨b - 0xC0, 1, 0x80, 0xBF⟩)
  else if b = 0xE0 then some (.inr ⟨0, 2, 0xA0, 0xBF⟩)
  else if b = 0xED then some (.inr ⟨0xD, 2, 0x80, 0x9F⟩)
  else if 0xE1 ≤ b ∧ b ≤ 0xEF then some (.inr ⟨b - 0xE0, 2, 0x80, 0xBF⟩)
  else if b = 0xF0 then some (.inr ⟨0, 3, 0x90, 0xBF⟩)
  else if 0xF1 ≤ b ∧ b ≤ 0xF3 then some (.inr ⟨b - 0xF0, 3, 0x80, 0xBF⟩)
  else if b = 0xF4 then some (.inr ⟨4, 3, 0x80, 0x8F⟩)
  else none

def replacement : Char := '\uFFFD'

/-- Takes an octet where none is due. -/
def beginWith (read : List Char) (b : Nat) : LossyState :=
  match begin? b with
  | some (.inl c) => ⟨c :: read, none⟩
  | some (.inr begun) => ⟨read, some begun⟩
  | none => ⟨replacement :: read, none⟩

def LossyState.step (s : LossyState) (octet : UInt8) : LossyState :=
  let b := octet.toNat
  match s.begun with
  | none => beginWith s.read b
  | some g =>
    if g.low ≤ b ∧ b ≤ g.high then
      let value := g.value * 64 + b % 64
      if g.due = 1 then ⟨Char.ofNat value :: s.read, none⟩
      else ⟨s.read, some ⟨value, g.due - 1, 0x80, 0xBF⟩⟩
    else beginWith (replacement :: s.read) b

/-- The characters read at the end of the octets. -/
def LossyState.finish (s : LossyState) : List Char :=
  (if s.begun.isSome then replacement :: s.read else s.read).reverse

def lossyText (bytes : ByteArray) : String :=
  String.ofList (bytes.data.toList.foldl LossyState.step ⟨[], none⟩).finish

end TrafficFeed.Text
