import TrafficFeed.Correlation
import TrafficFeed.Delivery
import TrafficFeed.Settings.Basic

/-!
# The pipeline

From capture to delivery: the requests that wait for their response, the queue of events, and the
worker that delivers them. The worker takes its turn whenever the captures leave it one; it goes on
until the queue is closed or has no producer left, and is empty. Beside it, stale requests are
swept away at an interval.
-/

namespace TrafficFeed

open TrafficFeed.Clock

namespace Pipeline

/-- What the worker is doing. -/
inductive Phase where
  /-- It has not had its first turn. -/
  | idle
  | running
  | stopped
  deriving DecidableEq, Repr

/-- Why a pipeline does not start. -/
inductive StartError where
  | refused (e : Error)
  | capacity (e : Queue.CapacityError)
  /-- The attempt to open the connection broke off. -/
  | broken (details : String)
  deriving DecidableEq, Repr

end Pipeline

/-- A pipeline over a connection of type `σ`. -/
structure Pipeline (σ : Type) where
  transport : Transport σ
  schema : Schema
  queue : Queue Event
  cache : Correlation
  /-- The connection, and the counts of the whole pipeline. -/
  delivery : Delivery.State σ
  worker : Pipeline.Phase
  sweepInterval : Nat
  /-- The time since the start in nanoseconds. -/
  clock : Nat
  /-- When the next sweep is due; `none` once there are no more. -/
  nextSweep : Option Nat

namespace Pipeline

variable {σ : Type}

def metrics (p : Pipeline σ) : Metrics := p.delivery.metrics

def mapMetrics (p : Pipeline σ) (f : Metrics → Metrics) : Pipeline σ :=
  { p with delivery := { p.delivery with metrics := f p.delivery.metrics } }

/-- How many requests wait for their response. -/
def pending (p : Pipeline σ) : Nat := p.cache.size

/-- Whether the worker has not come to its end. -/
def isRunning (p : Pipeline σ) : Bool := p.worker ≠ .stopped

def entry (level : Log.Level) (message : String) (fields : List (String × String)) : Log.Entry :=
  ⟨.pipeline, level, message, fields⟩

def policyName : Queue.Policy → String
  | .block => "Block"
  | .dropNewest => "DropNewest"

def schemaName : Schema → String
  | .enriched => "Enriched"
  | .plain => "Legacy"

def startedEntry (s : Settings) : Log.Entry :=
  entry .info "Forwarder started"
    [("capacity", toString s.queueCapacity), ("policy", policyName s.queuePolicy),
      ("schema", schemaName s.schema)]

/-- A pipeline that nothing has happened to. -/
def new (t : Transport σ) (s : Settings) (connection : σ) (queue : Queue Event) : Pipeline σ :=
  { transport := t
    schema := s.schema
    queue
    cache := Correlation.new s.cacheTtl s.cacheLimit
    delivery := ⟨connection, Metrics.zero⟩
    worker := .idle
    sweepInterval := s.sweepInterval
    clock := 0
    nextSweep := some s.sweepInterval }

/-- Starts a pipeline over an open connection. -/
def start (t : Transport σ) (s : Settings) (connection : σ) :
    Except StartError (List Log.Entry × Pipeline σ) :=
  match s.validate with
  | .error e => .error (.refused e)
  | .ok () =>
    match Queue.bounded s.queueCapacity s.queuePolicy with
    | .error e => .error (.capacity e)
    | .ok queue => .ok ([startedEntry s], new t s connection queue)

/-! ### The worker -/

/-- The worker's first turn. -/
def wake (p : Pipeline σ) : List Log.Entry × Pipeline σ :=
  match p.worker with
  | .idle =>
    ([Delivery.started p.transport p.delivery.connection], { p with worker := .running })
  | _ => ([], p)

/-- The worker delivers the oldest event, if there is one. -/
def deliverNext (p : Pipeline σ) : List Log.Entry × Pipeline σ :=
  let (log, p) := p.wake
  match p.queue.receive with
  | (.item e, queue) =>
    let (_, more, delivery) := Delivery.deliver p.transport e p.delivery
    (log ++ more, { p with queue, delivery })
  | (_, queue) => (log, { p with queue })

/-- Whether no event will come any more. -/
def isOver (p : Pipeline σ) : Bool := p.queue.closed || p.queue.orphaned

/-- The worker delivers all that is queued, and stops if nothing more will come. -/
def settle (p : Pipeline σ) : List Log.Entry × Pipeline σ :=
  if p.worker = .stopped then ([], p)
  else
    let (log, p) := p.wake
    let (events, queue) := p.queue.drain
    let (more, delivery) := Delivery.deliverAll p.transport events p.delivery
    let p := { p with queue, delivery }
    if p.isOver then
      let (last, delivery) := Delivery.stop p.transport p.delivery
      (log ++ more ++ last, { p with delivery, worker := .stopped })
    else (log ++ more, p)

/-! ### The sweeper -/

/-- What is said of requests that were swept away. -/
def sweptLog (evicted ttl : Nat) : List Log.Entry :=
  if evicted = 0 then []
  else [entry .info "Evicted requests that never saw a response"
    [("evicted", toString evicted), ("ttl", Duration.text ttl)]]

def countEvictions (evicted : Nat) (m : Metrics) : Metrics :=
  m.add .evictions (UInt64.ofNat evicted)

/-- Tells the gauge how many requests wait. -/
def showEntries (p : Pipeline σ) : Pipeline σ :=
  p.mapMetrics (·.setEntries (Int64.ofInt p.cache.size))

/-- Sweeps once, at the moment `now` of the clock that stamps the requests. -/
def sweep (p : Pipeline σ) (now : Nat) : List Log.Entry × Pipeline σ :=
  let (evicted, cache) := p.cache.sweep now
  let p := ({ p with cache }.mapMetrics (countEvictions evicted)).showEntries
  (Correlation.evictionLog evicted cache ++ sweptLog evicted cache.ttl, p)

/-- How late a sweep may be without the next being put off, in nanoseconds. -/
def lateness : Nat := 5000000

/-- When the next sweep is due after one that was due at `due` took place at the moment `clock`: an
interval after `due`, as often as it takes to lie ahead, or after `clock` if the sweep was late. -/
def dueAfter (interval due clock : Nat) : Nat :=
  if due + lateness < clock then clock + interval
  else due + ((clock - due) / interval + 1) * interval

/-- Lets time pass. A sweep takes place if one is due. -/
def advance (p : Pipeline σ) (elapsed now : Nat) : List Log.Entry × Pipeline σ :=
  let (log, p) := p.settle
  let p := { p with clock := p.clock + elapsed }
  match p.nextSweep with
  | some due =>
    if due ≤ p.clock then
      let (more, p) := p.sweep now
      (log ++ more, { p with nextSweep := some (dueAfter p.sweepInterval due p.clock) })
    else (log, p)
  | none => (log, p)

/-! ### The end -/

def stoppedEntry : Log.Entry := entry .info "Forwarder stopped" []

/-- Takes no more events, delivers those that are queued, and stops. -/
def shutdown (p : Pipeline σ) : List Log.Entry × Pipeline σ :=
  let (log, p) := { p with queue := p.queue.close }.settle
  (log ++ [stoppedEntry], { p with nextSweep := none })

/-- The captures come to their end; the worker delivers what is queued and stops. -/
def abandon (p : Pipeline σ) : List Log.Entry × Pipeline σ :=
  { p with queue := p.queue.orphan }.settle

end Pipeline

end TrafficFeed
