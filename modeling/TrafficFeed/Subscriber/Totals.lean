import TrafficFeed.Subscriber.Message

/-!
# Totals

How many messages a subscriber has received, and how many of them were events of plain or of
encrypted traffic or could not be read.
-/

namespace TrafficFeed

/-- The counts of a subscriber. -/
structure Totals where
  received : Nat
  http : Nat
  https : Nat
  malformed : Nat
  deriving DecidableEq, Repr

/-- The scheme that an event names: its `top_protocol`, or its `scheme` if it has no
`top_protocol` at all. -/
def Json.scheme (v : Json) : String :=
  match v.get? "top_protocol" with
  | some protocol => protocol.asText?.getD ""
  | none => v.textAt "scheme"

namespace Totals

open TrafficFeed.Text

def zero : Totals := ⟨0, 0, 0, 0⟩

/-- Counts a message by its scheme, or as malformed if it could not be read. -/
def record (t : Totals) : Option Json → Totals
  | none => { t with received := t.received + 1, malformed := t.malformed + 1 }
  | some v =>
    if sameLetters v.scheme "https" then { t with received := t.received + 1, https := t.https + 1 }
    else if sameLetters v.scheme "http" then
      { t with received := t.received + 1, http := t.http + 1 }
    else { t with received := t.received + 1 }

@[simp] theorem received_record (t : Totals) (v : Option Json) :
    (t.record v).received = t.received + 1 := by
  cases v with
  | none => rfl
  | some v =>
    unfold record
    dsimp only
    split
    · rfl
    · split <;> rfl

end Totals

end TrafficFeed
