import TrafficFeed.Event.Describe
import TrafficFeed.Pipeline.Basic

/-!
# Captures

The two occasions on which the proxy calls: a request is complete, and its response is. Either
makes the events of the flow and queues them. A capture never fails: an event that the queue does
not take is counted and forgotten.
-/

namespace TrafficFeed.Pipeline

open TrafficFeed.Clock TrafficFeed.Http

variable {σ : Type}

/-- From where a capture comes. -/
inductive Host where
  /-- Code that may give way to the worker. -/
  | task
  /-- A thread of its own. -/
  | thread
  /-- The thread on which the worker runs as well, in code that cannot give way. -/
  | loop
  deriving DecidableEq, Repr

/-- The two clocks at a capture: the moment that events tell of, and the one that stamps the
requests that wait, in nanoseconds. -/
structure Moment where
  now : Instant
  stamp : Nat

/-- The counts after a capture has touched the requests that wait. -/
def touched (p : Pipeline σ) (cache : Correlation) (evicted : Nat) : Pipeline σ :=
  ({ p with cache }.mapMetrics (countEvictions evicted)).showEntries

/-- The events of a request. In the enriched schema it is kept until its response. -/
def requestEvents (p : Pipeline σ) (flow : Flow) (moment : Moment) :
    List Event × List Log.Entry × Pipeline σ :=
  match p.schema with
  | .plain => ([.plainRequest flow.request.plain], [], p)
  | .enriched =>
    let connection := flow.connection moment.now
    let captured := flow.request.captured moment.now
    let (evicted, cache) := p.cache.store flow.id captured moment.stamp
    ([.requestDetail (captured.detail connection), .summary (captured.summary connection)],
      Correlation.evictionLog evicted cache, p.touched cache evicted)

def flowTag (flow : Flow) : List (String × String) := [("flow_id", flow.id.text)]

/-- The events of a response. In the enriched schema its request is looked up, once. -/
def responseEvents (p : Pipeline σ) (flow : Flow) (moment : Moment) :
    List Event × List Log.Entry × Pipeline σ :=
  match flow.response with
  | none => ([], [entry .warn "Response hook fired without a response" (flowTag flow)], p)
  | some response =>
    match p.schema with
    | .plain => ([.plainResponse (response.plain flow.request)], [], p)
    | .enriched =>
      let (request, cache) := p.cache.take flow.id
      let p := p.touched cache 0
      let (log, p) := match request with
        | some _ => ([], p)
        | none =>
          ([entry .info "No cached request for response, emitting response fields only"
            (flowTag flow)], p.mapMetrics (·.count .misses))
      let connection := flow.connection moment.now
      ([.summary (response.summary connection request),
        .responseDetail (response.detail connection)], log, p)

/-- Offers an event to the queue. Where the queue is full and the host may wait, it does so until
the worker has made room. -/
def offer (p : Pipeline σ) (host : Host) (e : Event) :
    Except Queue.SendError Unit × List Log.Entry × Pipeline σ :=
  match p.queue.trySend e, p.queue.policy, host with
  | (.error .full, _), .block, .loop => (.error .cannotBlock, [], p)
  | (.error .full, _), .block, _ =>
    let (log, p) := p.deliverNext
    let (sent, queue) := p.queue.trySend e
    (sent, log, { p with queue })
  | (sent, queue), _, _ => (sent, [], { p with queue })

/-- Counts what became of an offer, and says so if the event was lost. -/
def recordOffer (p : Pipeline σ) (label : String) :
    Except Queue.SendError Unit → List Log.Entry × Pipeline σ
  | .ok () => ([], p.mapMetrics (·.count .enqueued))
  | .error .cannotBlock =>
    ([entry .warn
      "Event queue full on a current-thread runtime, dropping instead of blocking"
      [("event", label)]], p.mapMetrics (·.count .dropped))
  | .error e =>
    ([entry .debug "Event dropped at enqueue" [("event", label), ("reason", e.message)]],
      p.mapMetrics (·.count .dropped))

def enqueue (host : Host) : List Event → Pipeline σ → List Log.Entry × Pipeline σ
  | [], p => ([], p)
  | e :: es, p =>
    let (sent, log, p) := p.offer host e
    let (said, p) := p.recordOffer e.label sent
    let (rest, p) := enqueue host es p
    (log ++ said ++ rest, p)

/-- The request of a flow is complete. -/
def captureRequest (p : Pipeline σ) (host : Host) (flow : Flow) (moment : Moment) :
    List Log.Entry × Pipeline σ :=
  let (events, log, p) := p.requestEvents flow moment
  let (more, p) := enqueue host events p
  (log ++ more, p)

/-- The response of a flow is complete. -/
def captureResponse (p : Pipeline σ) (host : Host) (flow : Flow) (moment : Moment) :
    List Log.Entry × Pipeline σ :=
  let (events, log, p) := p.responseEvents flow moment
  let (more, p) := enqueue host events p
  (log ++ more, p)

end TrafficFeed.Pipeline
