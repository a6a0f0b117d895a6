import TrafficFeed.Transport.Basic

/-!
# The scripted transport

A transport that follows a script: it is told in advance how its operations end, and it remembers
what became of them. Past the end of the script every operation succeeds.
-/

namespace TrafficFeed.Transport

/-- What is still to happen, and what has happened. -/
structure Script where
  publishes : List Outcome
  rebuilds : List Outcome
  /-- The texts whose publication succeeded, the latest first. -/
  published : List String
  /-- How often a new connection was asked for. -/
  rebuildCalls : Nat
  closed : Bool
  deriving DecidableEq, Repr

namespace Script

def new (publishes rebuilds : List Outcome) : Script :=
  { publishes, rebuilds, published := [], rebuildCalls := 0, closed := false }

def next : List Outcome → Outcome × List Outcome
  | [] => (.ok, [])
  | o :: os => (o, os)

/-- The transport that follows a script. -/
def transport : Transport Script where
  publish text s :=
    let (outcome, publishes) := next s.publishes
    let published := if outcome = .ok then text :: s.published else s.published
    (outcome, { s with publishes, published })
  rebuild s :=
    let (outcome, rebuilds) := next s.rebuilds
    (outcome, { s with rebuilds, rebuildCalls := s.rebuildCalls + 1 })
  close s := { s with closed := true }
  describe _ := "scripted"

end Script

end TrafficFeed.Transport
