/-!
# JSON values

A value of the exchange format, with the look-ups that a reader of messages needs. Members keep
the order in which they were written; where a key comes twice, the last member counts.
-/

namespace TrafficFeed

/-- A number: an integer that fits in 64 bits, signed or unsigned, or a decimal
`± digits · 10 ^ exponent` for every other. -/
inductive Json.Number where
  | int (value : Int)
  | decimal (negative : Bool) (digits : Nat) (exponent : Int)
  deriving DecidableEq, Repr

/-- A JSON value. -/
inductive Json where
  | null
  | bool (value : Bool)
  | number (value : Json.Number)
  | text (value : String)
  | list (items : List Json)
  | object (members : List (String × Json))
  deriving Repr

namespace Json

def ofNat (n : Nat) : Json := .number (.int n)

/-- The last member of the list under a key. -/
def lookup (key : String) (members : List (String × Json)) : Option Json :=
  (members.reverse.find? (·.1 == key)).map Prod.snd

/-- The member of an object under a key; `none` for any other value. -/
def get? (key : String) : Json → Option Json
  | .object members => lookup key members
  | _ => none

def asText? : Json → Option String
  | .text s => some s
  | _ => none

/-- The value of an integer that fits in 64 bits with a sign. -/
def asInt64? : Json → Option Int
  | .number (.int n) => if Int64.minValue.toInt ≤ n ∧ n ≤ Int64.maxValue.toInt then some n else none
  | _ => none

@[simp] theorem lookup_nil (key : String) : lookup key [] = none := rfl

theorem lookup_concat (key : String) (members : List (String × Json)) (m : String × Json) :
    lookup key (members ++ [m]) = if m.1 = key then some m.2 else lookup key members := by
  by_cases h : m.1 = key <;> simp [lookup, h]

end Json

end TrafficFeed
