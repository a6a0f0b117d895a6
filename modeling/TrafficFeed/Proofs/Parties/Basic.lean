import TrafficFeed.Pipeline.Capture
import TrafficFeed.Proofs.Queue.Entry
import TrafficFeed.Proofs.Transport.Traced

/-!
# The parties to a pipeline

Several parties are at work on a pipeline at the same time: producers that send events, the worker
that delivers them, and whoever asks for the end. Each takes its steps one by one, and the steps of
all parties may follow one another in any order. A step of a producer is one send, or one poll of
a send that waits; the worker receives an event or closes the queue, whichever comes first, and
delivers what it has received. A producer goes through with what it has begun: no step drops a
single send that waits.

What happens is written down as it happens, so that statements about a run can speak of the order
of events.
-/

namespace TrafficFeed

open TrafficFeed.Pipeline

/-! ### Producers -/

/-- A producer at work: it sends one event after the other. -/
structure Producer where
  name : Nat
  way : Queue.Way
  next : Event
  later : List Event
  deriving DecidableEq, Repr

namespace Producer

/-- A producer of some events; without an event there is nothing to do. -/
def ofEvents? (name : Nat) (way : Queue.Way) : List Event → Option Producer
  | [] => none
  | e :: es => some ⟨name, way, e, es⟩

/-- What a producer has still to send. -/
def events (p : Producer) : List Event := p.next :: p.later

/-- The producer after its next event. -/
def rest? (p : Producer) : Option Producer := ofEvents? p.name p.way p.later

end Producer

def Pipeline.Host.way : Host → Queue.Way
  | .task => .task
  | .thread => .blocking .thread
  | .loop => .blocking .loop

/-! ### What is written down -/

/-- Something that has happened. -/
inductive Report where
  /-- A producer has come with its events. -/
  | joined (name : Nat) (way : Queue.Way) (events : List Event)
  /-- A send of a producer is over. -/
  | sent (name : Nat) (e : Event) (r : Except Queue.SendError Unit)
  /-- The request of a flow has been captured, by the producer that comes next. -/
  | requested (name : Nat) (flow : Flow) (moment : Moment)
  /-- The response of a flow has been captured, if it has one, and its request looked up. -/
  | responded (name : Nat) (flow : Flow) (moment : Moment) (found : Option CapturedRequest)
  /-- Stale requests have been swept away. -/
  | swept (now : Nat)

namespace Report

/-- The event that has entered the queue. -/
def accepted? : Report → Option Event
  | .sent _ e (.ok _) => some e
  | _ => none

/-- The event that the queue has not taken. -/
def refused? : Report → Option Event
  | .sent _ e (.error _) => some e
  | _ => none

end Report

/-! ### Steps -/

/-- A pipeline and the parties to it. -/
structure Parties (σ : Type) where
  pipeline : Pipeline σ
  /-- The event that the worker has received and not yet delivered. -/
  held : Option Event
  /-- Whether the end has been asked for. -/
  cancelled : Bool
  /-- The producers that can go on. -/
  active : List Producer
  /-- The producers whose next event waits at the queue, in the order of the waiting sends. -/
  parked : List Producer
  /-- How many producers there have been. -/
  born : Nat
  /-- What has happened, the oldest first. -/
  history : List Report

namespace Parties

variable {σ : Type}

def new (p : Pipeline σ) : Parties σ :=
  { pipeline := p, held := none, cancelled := false, active := [], parked := [], born := 0,
    history := [] }

@[simp] abbrev queue (s : Parties σ) : Queue Event := s.pipeline.queue

/-- The events that have entered the queue, in the order in which they did. -/
def accepted (s : Parties σ) : List Event := s.history.filterMap Report.accepted?

/-- The events that the queue has not taken. -/
def refused (s : Parties σ) : List Event := s.history.filterMap Report.refused?

/-- The calls of a traced transport. -/
@[simp] abbrev calls (s : Parties (σ × List Transport.Call)) : List Transport.Call :=
  s.pipeline.delivery.connection.2

/-- The texts handed to the transport. -/
def handed (s : Parties (σ × List Transport.Call)) : List String :=
  s.calls.filterMap Transport.Call.payload?

/-- Whether no producer is in the middle of its work. -/
def idle (s : Parties σ) : Prop := s.active = [] ∧ s.parked = []

def withQueue (s : Parties σ) (queue : Queue Event) : Parties σ :=
  { s with pipeline := { s.pipeline with queue } }

/-- A producer comes with its events. -/
def join (s : Parties σ) (way : Queue.Way) (events : List Event) : Parties σ :=
  { s with
    active := s.active ++ (Producer.ofEvents? s.born way events).toList
    born := s.born + 1
    history := s.history ++ [.joined s.born way events] }

/-- A send of a producer is over: it is counted, and the producer goes on. -/
def record (s : Parties σ) (p : Producer) (r : Except Queue.SendError Unit) : Parties σ :=
  { s with
    pipeline := (s.pipeline.recordOffer p.next.label r).2
    active := s.active ++ p.rest?.toList
    history := s.history ++ [.sent p.name p.next r] }

/-- What follows a send. -/
def conclude (s : Parties σ) (p : Producer) : Queue.Sent → Parties σ
  | .ok => s.record p (.ok ())
  | .failed e => s.record p (.error e)
  | .pending => { s with parked := s.parked ++ [p] }

/-- A producer sends its next event. -/
def offer (s : Parties σ) (i : Nat) : Parties σ :=
  match s.active[i]? with
  | none => s
  | some p =>
    let (sent, queue) := s.queue.enter p.way p.next
    ({ s with active := s.active.eraseIdx i }.withQueue queue).conclude p sent

/-- A producer whose send waits is polled. -/
def resume (s : Parties σ) (i : Nat) : Parties σ :=
  match s.parked[i]?, s.queue.poll i with
  | none, _ | some _, (.pending, _) => s
  | some p, (sent, queue) =>
    ({ s with parked := s.parked.eraseIdx i }.withQueue queue).conclude p sent

/-- The producers leave, and with them the sends that wait. -/
def leave (s : Parties σ) : Parties σ :=
  { s.withQueue s.queue.orphan with active := [], parked := [] }

def cancel (s : Parties σ) : Parties σ := { s with cancelled := true }

def wake (s : Parties σ) : Parties σ := { s with pipeline := s.pipeline.wake.2 }

/-- The worker is done: it closes the connection. -/
def stop (s : Parties σ) : Parties σ :=
  { s with pipeline := { s.pipeline with
      delivery := (Delivery.stop s.pipeline.transport s.pipeline.delivery).2
      worker := .stopped } }

/-- Whether the worker has its choice between an event and the end. -/
def choosing (s : Parties σ) : Prop := s.pipeline.worker = .running ∧ s.held = none

instance (s : Parties σ) : Decidable s.choosing := inferInstanceAs (Decidable (_ ∧ _))

/-- The worker turns to the queue: it receives an event, or it sees that there will be none. -/
def receive (s : Parties σ) : Parties σ :=
  if s.choosing then
    match s.queue.receive with
    | (.item e, queue) => { s.withQueue queue with held := some e }
    | (.pending, _) => s
    | (.finished, _) => s.stop
  else s

/-- The worker turns to the end, if it has been asked for, and closes the queue. -/
def close (s : Parties σ) : Parties σ :=
  if s.choosing ∧ s.cancelled then s.withQueue s.queue.close else s

/-- The worker delivers the event that it holds. -/
def deliver (s : Parties σ) : Parties σ :=
  match s.held with
  | none => s
  | some e =>
    { s with
      held := none
      pipeline := { s.pipeline with
        delivery := (Delivery.deliver s.pipeline.transport e s.pipeline.delivery).2.2 } }

/-- A step of a party that is there already. -/
inductive Turn where
  | offer (i : Nat)
  | resume (i : Nat)
  | cancel
  | wake
  | receive
  | close
  | deliver
  deriving DecidableEq, Repr

def turn (s : Parties σ) : Turn → Parties σ
  | .offer i => s.offer i
  | .resume i => s.resume i
  | .cancel => s.cancel
  | .wake => s.wake
  | .receive => s.receive
  | .close => s.close
  | .deliver => s.deliver

/-- What can happen where any producer may come with any events. -/
inductive Move where
  | join (way : Queue.Way) (events : List Event)
  | leave
  | turn (t : Turn)
  deriving DecidableEq, Repr

/-- Makes a move. Once the producers have left, no other comes. -/
def move (s : Parties σ) : Move → Parties σ
  | .join way events => if s.queue.orphaned then s else s.join way events
  | .leave => s.leave
  | .turn t => s.turn t

def run (s : Parties σ) (moves : List Move) : Parties σ := moves.foldl move s

end Parties

end TrafficFeed
