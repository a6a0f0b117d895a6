import TrafficFeed.Pipeline.Capture
import TrafficFeed.Proofs.Correlation.History
import TrafficFeed.Proofs.Parties.Conveyance

/-!
# Captures among the parties

A capture turns to the requests that wait, in one step, and then it is a producer of the events
that it has made: its sends follow one by one, with steps of other parties between them. Sweeps take
place at any time. The forwarder is given up when no capture is under way, and from then on there
are no captures.

Captures are never cancelled: a task that captures is not dropped while one of its sends waits. What
is said of runs is said of runs in which every capture goes on to its last send.
-/

namespace TrafficFeed

open TrafficFeed.Pipeline TrafficFeed.Transport

variable {σ : Type}

/-! ### Simple flows -/

/-- A request for a path at the host `h`, and its response if it has one, without headers and
without content. -/
def Flow.simple (id : FlowId) (path : String) (answered : Bool) : Flow :=
  { id
    request :=
      { scheme := "http", host := "h", port := 80, method := "GET", path, version := "HTTP/1.1",
        headers := .empty, raw := .empty, decoded := none, startedAt := none }
    response :=
      if answered then
        some { status := 200, reason := "OK", version := "HTTP/1.1", headers := .empty,
               raw := .empty, decoded := none }
      else none
    client := none
    server := none }

/-- A moment of the first second of 1970. -/
def Pipeline.Moment.simple (stamp : Nat) : Moment :=
  ⟨Clock.Instant.epoch, stamp⟩

/-! ### What a capture makes of a flow -/

def Schema.requestEvents (schema : Schema) (flow : Flow) (moment : Moment) : List Event :=
  match schema with
  | .plain => [.plainRequest flow.request.plain]
  | .enriched =>
    let captured := flow.request.captured moment.now
    let connection := flow.connection moment.now
    [.requestDetail (captured.detail connection), .summary (captured.summary connection)]

/-- The events of a response whose request has been looked up. -/
def Schema.responseEvents (schema : Schema) (flow : Flow) (moment : Moment)
    (found : Option CapturedRequest) : List Event :=
  match flow.response, schema with
  | none, _ => []
  | some response, .plain => [.plainResponse (response.plain flow.request)]
  | some response, .enriched =>
    let connection := flow.connection moment.now
    [.summary (response.summary connection found), .responseDetail (response.detail connection)]

namespace Pipeline

/-- The request that a response finds. Nothing is looked up unless there is a response, nor in the
plain schema. -/
def found (p : Pipeline σ) (flow : Flow) : Option CapturedRequest :=
  match flow.response, p.schema with
  | some _, .enriched => p.cache.get? flow.id
  | _, _ => none

/-- Whether the capture of a request sweeps. -/
def sweepsFor (p : Pipeline σ) (flow : Flow) (moment : Moment) : Bool :=
  p.schema = .enriched ∧
    p.cache.overflows flow.id (flow.request.captured moment.now) moment.stamp

/-- The events of either side of a flow. -/
def eventsOf (p : Pipeline σ) : Direction → Flow → Moment → List Event × List Log.Entry × Pipeline σ
  | .request => p.requestEvents
  | .response => p.responseEvents

lemma requestEvents_fst (p : Pipeline σ) (flow : Flow) (moment : Moment) :
    (p.requestEvents flow moment).1 = p.schema.requestEvents flow moment := by
  unfold requestEvents
  cases p.schema <;> rfl

lemma responseEvents_fst (p : Pipeline σ) (flow : Flow) (moment : Moment) :
    (p.responseEvents flow moment).1 = p.schema.responseEvents flow moment (p.found flow) := by
  unfold responseEvents found Schema.responseEvents
  cases flow.response with
  | none => rfl
  | some response =>
    cases p.schema with
    | plain => rfl
    | enriched => cases h : p.cache.get? flow.id <;> simp [Correlation.take, h]

/-! ### What a capture does to the pipeline -/

/-- Two pipelines that differ at most in the requests that wait and in what is counted of them. -/
structure Alike (p p' : Pipeline σ) : Prop where
  transport : p'.transport = p.transport
  schema : p'.schema = p.schema
  queue : p'.queue = p.queue
  worker : p'.worker = p.worker
  connection : p'.delivery.connection = p.delivery.connection
  counts : ∀ c : Counter, c ≠ .evictions → c ≠ .misses → p'.metrics.get c = p.metrics.get c

lemma Alike.refl (p : Pipeline σ) : Alike p p := ⟨rfl, rfl, rfl, rfl, rfl, fun _ _ _ => rfl⟩

lemma Alike.trans {p p' p'' : Pipeline σ} (h : Alike p p') (h' : Alike p' p'') : Alike p p'' where
  transport := h'.transport.trans h.transport
  schema := h'.schema.trans h.schema
  queue := h'.queue.trans h.queue
  worker := h'.worker.trans h.worker
  connection := h'.connection.trans h.connection
  counts c he hm := (h'.counts c he hm).trans (h.counts c he hm)

lemma Alike.touched (p : Pipeline σ) (cache : Correlation) (evicted : Nat) :
    Alike p (p.touched cache evicted) := by
  refine ⟨rfl, rfl, rfl, rfl, rfl, fun c he _ => ?_⟩
  simp only [Pipeline.touched, showEntries, metrics, metrics_mapMetrics, Metrics.get_setEntries,
    countEvictions]
  rw [Metrics.get_add_of_ne he]

lemma Alike.misses (p : Pipeline σ) : Alike p (p.mapMetrics (·.count .misses)) := by
  refine ⟨rfl, rfl, rfl, rfl, rfl, fun c _ hm => ?_⟩
  simp only [metrics, metrics_mapMetrics, Metrics.count]
  rw [Metrics.get_add_of_ne hm]

lemma Alike.requestEvents (p : Pipeline σ) (flow : Flow) (moment : Moment) :
    Alike p (p.requestEvents flow moment).2.2 := by
  unfold Pipeline.requestEvents
  cases p.schema with
  | plain => exact .refl p
  | enriched => exact .touched p _ _

lemma Alike.responseEvents (p : Pipeline σ) (flow : Flow) (moment : Moment) :
    Alike p (p.responseEvents flow moment).2.2 := by
  unfold Pipeline.responseEvents
  cases flow.response with
  | none => exact .refl p
  | some response =>
    cases p.schema with
    | plain => exact .refl p
    | enriched =>
      cases h : p.cache.get? flow.id with
      | some request => simpa [Correlation.take, h] using Alike.touched p _ _
      | none =>
        simp only [Correlation.take, h]
        exact (Alike.touched p _ _).trans (.misses _)

lemma Alike.eventsOf (p : Pipeline σ) (side : Direction) (flow : Flow) (moment : Moment) :
    Alike p (p.eventsOf side flow moment).2.2 := by
  cases side with
  | request => exact .requestEvents p flow moment
  | response => exact .responseEvents p flow moment

lemma Alike.sweep (p : Pipeline σ) (now : Nat) : Alike p (p.sweep now).2 :=
  .touched p (p.cache.sweep now).2 (p.cache.sweep now).1

end Pipeline

namespace Report

/-- The events of the capture that a report tells of. -/
def events (schema : Schema) : Report → List Event
  | .requested _ flow moment => schema.requestEvents flow moment
  | .responded _ flow moment found => schema.responseEvents flow moment found
  | _ => []

/-- Whether a report tells of the requests that wait and not of a producer. -/
def isAside : Report → Bool
  | .joined .. | .sent .. => false
  | .requested .. | .responded .. | .swept .. => true

/-- What a report says of the requests that wait. -/
def mark? : Report → Option Correlation.Mark
  | .requested _ flow moment =>
    some (.stored ⟨flow.id, flow.request.captured moment.now, moment.stamp⟩)
  | .responded _ flow _ _ => if flow.response.isSome then some (.taken flow.id) else none
  | .swept now => some (.swept now)
  | _ => none

end Report

namespace Parties

/-! ### Steps -/

/-- Puts a pipeline in place of the present one and writes down why. -/
def note (s : Parties σ) (p : Pipeline σ) (reports : List Report) : Parties σ :=
  { s with pipeline := p, history := s.history ++ reports }

/-- What is written down of a capture. -/
def report (s : Parties σ) (side : Direction) (flow : Flow) (moment : Moment) : Report :=
  match side with
  | .request => .requested s.born flow moment
  | .response => .responded s.born flow moment (s.pipeline.found flow)

/-- The sweep that the capture of a request makes, if it does. -/
def sweepReports (s : Parties σ) (side : Direction) (flow : Flow) (moment : Moment) :
    List Report :=
  match side with
  | .request => if s.pipeline.sweepsFor flow moment then [.swept moment.stamp] else []
  | .response => []

/-- A side of a flow is captured. -/
def capture (s : Parties σ) (side : Direction) (host : Host) (flow : Flow) (moment : Moment) :
    Parties σ :=
  let (events, _, p) := s.pipeline.eventsOf side flow moment
  (s.note p (s.report side flow moment :: s.sweepReports side flow moment)).join host.way events

/-- Stale requests are swept away. -/
def sweep (s : Parties σ) (now : Nat) : Parties σ := s.note (s.pipeline.sweep now).2 [.swept now]

/-- What can happen to a forwarder. -/
inductive Action where
  | capture (side : Direction) (host : Host) (flow : Flow) (moment : Moment)
  | sweep (now : Nat)
  /-- The forwarder is given up. -/
  | leave
  | turn (t : Turn)

instance (s : Parties σ) : Decidable s.idle := inferInstanceAs (Decidable (_ ∧ _))

/-- Acts. A forwarder is given up between captures, and makes no captures after that. -/
def act (s : Parties σ) : Action → Parties σ
  | .capture side host flow moment =>
    if s.queue.orphaned then s else s.capture side host flow moment
  | .sweep now => s.sweep now
  | .leave => if s.idle then s.leave else s
  | .turn t => s.turn t

def perform (s : Parties σ) (actions : List Action) : Parties σ := actions.foldl act s

/-! ### Runs -/

@[simp] lemma perform_nil (s : Parties σ) : s.perform [] = s := rfl

lemma perform_append (s : Parties σ) (actions more : List Action) :
    s.perform (actions ++ more) = (s.perform actions).perform more := by
  simp [perform]

lemma capture_eq (s : Parties σ) (side : Direction) (host : Host) (flow : Flow)
    (moment : Moment) :
    s.capture side host flow moment =
      (s.note (s.pipeline.eventsOf side flow moment).2.2
        (s.report side flow moment :: s.sweepReports side flow moment)).join host.way
          ((s.report side flow moment).events s.pipeline.schema) := by
  have hevents : (s.pipeline.eventsOf side flow moment).1 =
      (s.report side flow moment).events s.pipeline.schema := by
    cases side with
    | request => exact requestEvents_fst _ _ _
    | response => exact responseEvents_fst _ _ _
  rw [← hevents]
  rfl

lemma history_capture (s : Parties σ) (side : Direction) (host : Host) (flow : Flow)
    (moment : Moment) : (s.capture side host flow moment).history = s.history ++
      [s.report side flow moment] ++ (s.sweepReports side flow moment ++ [.joined s.born host.way
        ((s.report side flow moment).events s.pipeline.schema)]) := by
  rw [capture_eq]
  simp [join, note]

/-- What every capture and sweep, the departure of the forwarder and every step keep, every run
keeps. -/
lemma perform_induction {P : Parties σ → Prop} {s : Parties σ} (hs : P s)
    (hcapture : ∀ s side host flow moment, P s → s.queue.orphaned = false →
      P (s.capture side host flow moment))
    (hsweep : ∀ s now, P s → P (s.sweep now))
    (hleave : ∀ s : Parties σ, P s → s.idle → P s.leave)
    (hturn : ∀ s s', P s → Turned s s' → P s') (actions : List Action) :
    P (s.perform actions) := by
  induction actions using List.reverseRecOn with
  | nil => exact hs
  | append_singleton actions a ih =>
    rw [perform_append]
    change P ((s.perform actions).act a)
    cases a with
    | capture side host flow moment =>
      simp only [act]
      split
      · exact ih
      · next h => exact hcapture _ side host flow moment ih (by simpa using h)
    | sweep now => exact hsweep _ now ih
    | leave =>
      simp only [act]
      split
      · next h => exact hleave _ ih h
      · exact ih
    | turn t => exact hturn _ _ ih (.of_turn _ t)

lemma eq_swept_of_mem_sweepReports {s : Parties σ} {side : Direction} {flow : Flow}
    {moment : Moment} {r : Report} (hr : r ∈ s.sweepReports side flow moment) :
    r = .swept moment.stamp := by
  cases side with
  | request =>
    simp only [sweepReports] at hr
    split at hr
    · exact List.mem_singleton.mp hr
    · simp at hr
  | response => simp [sweepReports] at hr

lemma isAside_reports (s : Parties σ) (side : Direction) (flow : Flow) (moment : Moment) :
    ∀ r ∈ s.report side flow moment :: s.sweepReports side flow moment, r.isAside = true := by
  intro r hr
  rcases List.mem_cons.mp hr with rfl | hr
  · cases side <;> rfl
  · rw [eq_swept_of_mem_sweepReports hr]
    rfl

/-- What does not depend on the requests that wait, is kept by every run if producers that come,
the departure of the producers and steps keep it. -/
lemma perform_induction_of_alike {P : Parties σ → Prop} {s : Parties σ} (hs : P s)
    (hnote : ∀ s p reports, P s → Alike s.pipeline p → (∀ r ∈ reports, r.isAside = true) →
      P (s.note p reports))
    (hjoin : ∀ s way events, P s → s.queue.orphaned = false → P (s.join way events))
    (hleave : ∀ s, P s → P s.leave)
    (hturn : ∀ s s', P s → Turned s s' → P s') (actions : List Action) :
    P (s.perform actions) := by
  apply perform_induction hs
  · intro s side host flow moment h hleft
    rw [capture_eq]
    have halike := Alike.eventsOf s.pipeline side flow moment
    refine hjoin _ _ _ (hnote s _ _ h halike (isAside_reports s side flow moment)) ?_
    change (s.pipeline.eventsOf side flow moment).2.2.queue.orphaned = false
    rw [halike.queue]
    exact hleft
  · intro s now h
    refine hnote s _ _ h (.sweep _ _) fun r hr => ?_
    rw [List.mem_singleton.mp hr]
    rfl
  · exact fun s h _ => hleave s h
  · exact hturn

/-! ### The way of the events -/

lemma accepted_note {s : Parties σ} {p : Pipeline σ} {reports : List Report}
    (h : ∀ r ∈ reports, r.isAside = true) : (s.note p reports).accepted = s.accepted := by
  have hnone : reports.filterMap Report.accepted? = [] := by
    rw [List.filterMap_eq_nil_iff]
    intro r hr
    have := h r hr
    cases r <;> simp_all [Report.isAside, Report.accepted?]
  simp [accepted, note, hnone]

lemma refused_note {s : Parties σ} {p : Pipeline σ} {reports : List Report}
    (h : ∀ r ∈ reports, r.isAside = true) : (s.note p reports).refused = s.refused := by
  have hnone : reports.filterMap Report.refused? = [] := by
    rw [List.filterMap_eq_nil_iff]
    intro r hr
    have := h r hr
    cases r <;> simp_all [Report.isAside, Report.refused?]
  simp [refused, note, hnone]

lemma Lined.note {s : Parties σ} (h : Lined s) {p : Pipeline σ} (hp : Alike s.pipeline p)
    (reports : List Report) : Lined (s.note p reports) := by
  refine ⟨?_, fun ho => h.left ?_⟩
  · rw [queue, Parties.note, hp.queue]
    exact h.items
  · rwa [queue, Parties.note, hp.queue] at ho

variable {t : Transport σ} {s : Parties (σ × List Call)}

lemma Conveyed.note (h : Conveyed t s) {p : Pipeline (σ × List Call)} (hp : Alike s.pipeline p)
    {reports : List Report} (hr : ∀ r ∈ reports, r.isAside = true) :
    Conveyed t (s.note p reports) := by
  refine h.extend (h.lined.note hp reports) [] (fun hne => absurd rfl hne) hp.transport rfl
    hp.worker ?_ ?_ ?_ ?_ ?_
  · exact congrArg Prod.snd hp.connection
  · exact congrArg Queue.closed hp.queue
  · exact congrArg Queue.orphaned hp.queue
  · rw [accepted_note hr, List.append_nil]
  · rw [List.append_nil]
    exact congrArg Queue.items hp.queue

end Parties

end TrafficFeed
