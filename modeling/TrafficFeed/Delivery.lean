import TrafficFeed.Event
import TrafficFeed.Log
import TrafficFeed.Metrics.Basic
import TrafficFeed.Transport.Basic

/-!
# Delivery

Events are published one after the other, each at most once: one whose publication fails is lost.
After a failure to send, or after a break, the connection is made anew, whether or not that
succeeds, and the next event is turned to. Any other failure leaves the connection as it is.
-/

namespace TrafficFeed

/-- What became of an event. -/
inductive Delivery where
  | published
  /-- It was lost, and a new connection was asked for. -/
  | rebuilt
  /-- It was lost, and the connection is as before. -/
  | dropped
  deriving DecidableEq, Repr

namespace Delivery

variable {σ : Type}

/-- The connection and the counts. -/
structure State (σ : Type) where
  connection : σ
  metrics : Metrics

def entry (level : Log.Level) (message : String) (fields : List (String × String)) : Log.Entry :=
  ⟨.worker, level, message, fields⟩

/-- How an event is named in logs. -/
def tags (e : Event) : List (String × String) :=
  [("event", e.label), ("flow_id", (e.flowId?.map (·.text)).getD "")]

/-- Asks for a new connection. -/
def rebuild (t : Transport σ) (s : State σ) : List Log.Entry × State σ :=
  let (outcome, connection) := t.rebuild s.connection
  let log := match outcome.error? with
    | none => []
    | some e => [entry .error "Connection rebuild failed"
      [("transport", t.describe connection), ("error", e.message)]]
  (log, ⟨connection, s.metrics.count .rebuilds⟩)

/-- Counts a failure and asks for a new connection. -/
def fail (t : Transport σ) (said : Log.Entry) (s : State σ) :
    Delivery × List Log.Entry × State σ :=
  let (log, s) := rebuild t { s with metrics := s.metrics.count .failures }
  (.rebuilt, said :: log, s)

/-- Publishes one event. -/
def deliver (t : Transport σ) (e : Event) (s : State σ) : Delivery × List Log.Entry × State σ :=
  let (outcome, connection) := t.publish e.payload s.connection
  let s := { s with connection }
  match outcome with
  | .ok =>
    (.published,
      [entry .debug "Event published"
        (tags e ++ [("bytes", toString e.payload.utf8ByteSize)])],
      { s with metrics := s.metrics.count .published })
  | .failed error =>
    if error.isSendFailure then
      fail t (entry .error "Publish failed, rebuilding connection"
        (tags e ++ [("error", error.message)])) s
    else
      (.dropped,
        [entry .error "Unexpected transport error" (tags e ++ [("error", error.message)])],
        { s with metrics := s.metrics.count .failures })
  | .broken =>
    fail t (entry .error "Transport panicked during publish, rebuilding connection" (tags e)) s

def deliverAll (t : Transport σ) : List Event → State σ → List Log.Entry × State σ
  | [], s => ([], s)
  | e :: es, s =>
    let (_, log, s) := deliver t e s
    let (rest, s) := deliverAll t es s
    (log ++ rest, s)

theorem deliverAll_append (t : Transport σ) (es fs : List Event) (s : State σ) :
    deliverAll t (es ++ fs) s =
      ((deliverAll t es s).1 ++ (deliverAll t fs (deliverAll t es s).2).1,
        (deliverAll t fs (deliverAll t es s).2).2) := by
  induction es generalizing s with
  | nil => simp [deliverAll]
  | cons e es ih => simp [deliverAll, ih]

def started (t : Transport σ) (connection : σ) : Log.Entry :=
  entry .info "Delivery worker started" [("transport", t.describe connection)]

def stopped : Log.Entry := entry .info "Delivery worker stopped" []

/-- Ends delivery: the connection is closed. -/
def stop (t : Transport σ) (s : State σ) : List Log.Entry × State σ :=
  ([stopped], { s with connection := t.close s.connection })

/-- A whole delivery: the events that a closed queue still holds, and then the end. -/
def run (t : Transport σ) (es : List Event) (s : State σ) : List Log.Entry × State σ :=
  let (log, s') := deliverAll t es s
  let (last, s') := stop t s'
  (started t s.connection :: log ++ last, s')

end Delivery

end TrafficFeed
