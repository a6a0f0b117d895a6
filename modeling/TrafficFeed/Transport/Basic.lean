import TrafficFeed.Error

/-!
# Transports

A transport owns one outbound connection and knows how to make it anew. It is given by what its
operations do to the connection; the delivery of events needs nothing else of it.
-/

namespace TrafficFeed

namespace Transport

/-- How an operation on a connection may end. A transport with a fault of its own may also break
off without an answer. -/
inductive Outcome where
  | ok
  | failed (e : TransportError)
  | broken
  deriving DecidableEq, Repr

/-- The error behind an outcome; after a break the connection counts as closed. -/
def Outcome.error? : Outcome → Option TransportError
  | .ok => none
  | .failed e => some e
  | .broken => some .closed

end Transport

/-- The operations on a connection of type `σ`. -/
structure Transport (σ : Type) where
  /-- Publishes a text. -/
  publish : String → σ → Transport.Outcome × σ
  /-- Replaces the connection by a new one. -/
  rebuild : σ → Transport.Outcome × σ
  close : σ → σ
  /-- How the connection is named in logs. -/
  describe : σ → String

end TrafficFeed
