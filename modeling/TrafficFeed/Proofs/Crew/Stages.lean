import TrafficFeed.Proofs.Crew.Basic

/-!
# The stages of a flow

A flow of a capture thread is in one of three stages: nothing has been made of it; its request has
been captured and is remembered; or its response has been captured too, and found the request. A
capture of one flow leaves every other in its stage.
-/

namespace TrafficFeed

open TrafficFeed.Pipeline TrafficFeed.Transport Event

variable {σ : Type}

/-! ### The events of a capture -/

namespace Schema

lemma flowId?_requestEvents (flow : Flow) (moment : Moment) :
    ∀ e ∈ enriched.requestEvents flow moment, e.flowId? = some flow.id := by
  intro e he
  simp only [requestEvents, List.mem_cons, List.not_mem_nil, or_false] at he
  rcases he with rfl | rfl <;> rfl

lemma flowId?_responseEvents (flow : Flow) (moment : Moment) (found : Option CapturedRequest) :
    ∀ e ∈ enriched.responseEvents flow moment found, e.flowId? = some flow.id := by
  intro e he
  unfold responseEvents at he
  cases hr : flow.response with
  | none => simp [hr] at he
  | some response =>
    simp only [hr, List.mem_cons, List.not_mem_nil, or_false] at he
    rcases he with rfl | rfl <;> rfl

end Schema

namespace Parties

variable {s : Parties σ} {flow : Flow} {moment : Moment}

lemma eventsOf_request (hschema : s.pipeline.schema = .enriched) (flow : Flow) (moment : Moment) :
    s.eventsOf .request flow moment = Schema.enriched.requestEvents flow moment := by
  simp [eventsOf, report, Report.events, hschema]

lemma eventsOf_response (hschema : s.pipeline.schema = .enriched) {response : Http.Response}
    (hr : flow.response = some response) (moment : Moment) :
    s.eventsOf .response flow moment =
      Schema.enriched.responseEvents flow moment (s.pipeline.cache.get? flow.id) := by
  simp [eventsOf, report, Report.events, hschema, found_of_some hschema hr]

lemma flowId?_eventsOf (hschema : s.pipeline.schema = .enriched) (side : Direction) (flow : Flow)
    (moment : Moment) : ∀ e ∈ s.eventsOf side flow moment, e.flowId? = some flow.id := by
  cases side with
  | request =>
    rw [eventsOf_request hschema]
    exact Schema.flowId?_requestEvents flow moment
  | response =>
    simp only [eventsOf, report, Report.events, hschema]
    exact Schema.flowId?_responseEvents flow moment _

/-! ### What a capture does to the requests that wait -/

lemma entries_capture_request (hschema : s.pipeline.schema = .enriched)
    (hpos : 0 < s.pipeline.cache.ttl) (hfresh : s.pipeline.cache.AllFresh moment.stamp)
    (host : Host) (flow : Flow) :
    (s.capture .request host flow moment).pipeline.cache.entries =
      flow.waiting moment :: s.pipeline.cache.entries.filter fun w => w.id ≠ flow.id := by
  change (s.pipeline.requestEvents flow moment).2.2.cache.entries = _
  rw [cache_requestEvents hschema, (hfresh.store hpos _ _).2]
  rfl

lemma entries_capture_response (hschema : s.pipeline.schema = .enriched)
    {response : Http.Response} (hr : flow.response = some response) (host : Host)
    (moment : Moment) :
    (s.capture .response host flow moment).pipeline.cache.entries =
      s.pipeline.cache.entries.filter fun w => w.id ≠ flow.id := by
  change (s.pipeline.responseEvents flow moment).2.2.cache.entries = _
  rw [cache_responseEvents hschema, hr]
  rfl

/-- A capture leaves the requests of other flows where they are. -/
lemma mem_entries_capture (hschema : s.pipeline.schema = .enriched)
    (hpos : 0 < s.pipeline.cache.ttl) (hfresh : s.pipeline.cache.AllFresh moment.stamp)
    (side : Direction) (host : Host) {w : Waiting} (hw : w ∈ s.pipeline.cache.entries)
    (hne : w.id ≠ flow.id) :
    w ∈ (s.capture side host flow moment).pipeline.cache.entries := by
  cases side with
  | request =>
    rw [entries_capture_request hschema hpos hfresh]
    exact List.mem_cons_of_mem _ (List.mem_filter.mpr ⟨hw, by simpa using hne⟩)
  | response =>
    change w ∈ (s.pipeline.responseEvents flow moment).2.2.cache.entries
    rw [cache_responseEvents hschema]
    split
    · exact List.mem_filter.mpr ⟨hw, by simpa using hne⟩
    · exact hw

/-- What is remembered under an identity is found. -/
lemma Recalls.get?_of_mem {ttl limit : Nat} (h : Recalls ttl limit s) {w : Waiting}
    (hw : w ∈ s.pipeline.cache.entries) : s.pipeline.cache.get? w.id = some w.request := by
  have hnodup : (s.pipeline.cache.entries.map (·.id)).Nodup := by
    rw [h.cache]
    exact Correlation.nodup_replay rfl _
  exact (Correlation.get?_eq_some_iff hnodup).mpr ⟨w, hw, rfl, rfl⟩

lemma Recalls.ttl_eq {ttl limit : Nat} (h : Recalls ttl limit s) : s.pipeline.cache.ttl = ttl := by
  rw [h.cache, Correlation.ttl_replay]
  rfl

/-! ### What a capture does to the producers -/

/-- A producer after a capture is the one that the capture has brought, or was there before. -/
lemma mem_workers_capture (hschema : s.pipeline.schema = .enriched) {side : Direction}
    {host : Host} {p : Producer} (hp : p ∈ (s.capture side host flow moment).workers) :
    p.name = s.born ∧ p.flow? = some flow.id ∨ p ∈ s.workers := by
  have huniform := flowId?_eventsOf hschema side flow moment
  have hall := (workers_capture s side host flow moment).mem_iff.mp hp
  revert hall huniform
  cases s.eventsOf side flow moment with
  | nil => exact fun _ hall => .inr hall
  | cons e es =>
    intro huniform hall
    rcases List.mem_cons.mp hall with rfl | hall
    · exact .inl ⟨rfl, huniform e List.mem_cons_self⟩
    · exact .inr hall

/-- A capture makes no events of other flows. -/
lemma ofFlow_made_capture (hschema : s.pipeline.schema = .enriched) (side : Direction)
    (host : Host) (moment : Moment) {id : FlowId} (hne : id ≠ flow.id) :
    ofFlow (some id) (s.capture side host flow moment).made = ofFlow (some id) s.made := by
  have hnil : ofFlow (some id) (s.eventsOf side flow moment) = [] :=
    ofFlow_eq_nil (flowId?_eventsOf hschema side flow moment) (by simpa using hne.symm)
  rw [made_capture, ofFlow_append, hnil, List.append_nil]

lemma ofFlow_made_capture_self (hschema : s.pipeline.schema = .enriched) (side : Direction)
    (host : Host) (flow : Flow) (moment : Moment) :
    ofFlow (some flow.id) (s.capture side host flow moment).made =
      ofFlow (some flow.id) s.made ++ s.eventsOf side flow moment := by
  rw [made_capture, ofFlow_append, ofFlow_eq_self (flowId?_eventsOf hschema side flow moment)]

/-! ### What a step leaves of the producers -/

lemma workers_eq_nil_iff : s.workers = [] ↔ s.idle := by
  simp [workers, idle]

lemma workers_eq_nil_turned {s' : Parties σ} (h : Turned s s') (hnil : s.workers = []) :
    s'.workers = [] := by
  cases Worked.of_turned h with
  | rests hworkers => exact List.Perm.eq_nil (hnil ▸ hworkers)
  | sends p others r hbefore =>
    rw [hnil] at hbefore
    exact absurd hbefore.symm.eq_nil (by simp)

/-- The queue is closed only when the end has been asked for. -/
lemma cancelled_of_closed_turned {s' : Parties σ} (h : Turned s s')
    (hs : s.queue.closed = true → s.cancelled = true) (hclosed : s'.queue.closed = true) :
    s'.cancelled = true := by
  cases h with
  | cancels => rfl
  | closes _ hc => exact hc
  | nothing | wakes | stops | delivers => exact hs hclosed
  | enters | refused | parks | resumes | fails | receives =>
    exact hs (by simpa [Queue.push] using hclosed)

/-- A producer after a step is what remains of one that was at work before. -/
lemma Smooth.exists_worker {t : Transport σ} {s s' : Parties (σ × List Call)} (h : Smooth t s)
    (hturned : Turned s s') {p : Producer} (hp : p ∈ s'.workers) :
    ∃ q ∈ s.workers, q.flow? = p.flow? ∧ q.name = p.name := by
  cases Worked.of_turned hturned with
  | rests hworkers => exact ⟨p, hworkers.mem_iff.mp hp, rfl, rfl⟩
  | sends q others r hbefore hafter =>
    have hq : q ∈ s.workers := hbefore.mem_iff.mpr List.mem_cons_self
    rcases List.mem_append.mp (hafter.mem_iff.mp hp) with hrest | hp
    · obtain ⟨hflow, hname, -⟩ := flow?_of_rest? (Option.mem_toList.mp hrest)
        (h.ordered.uniform q hq)
      exact ⟨q, hq, hflow.symm, hname.symm⟩
    · exact ⟨p, hbefore.mem_iff.mpr (List.mem_cons_of_mem _ hp), rfl, rfl⟩

end Parties

/-! ### The stages of a flow -/

namespace Exchange

/-- The request has been captured and is remembered; its events may still be on their way. -/
def Awaits (s : Parties σ) (last : Option Nat) (x : Exchange) : Prop :=
  ∃ moment, ofFlow (some x.id) s.made = Schema.enriched.requestEvents x.asked moment ∧
    x.asked.waiting moment ∈ s.pipeline.cache.entries ∧
    ∀ p ∈ s.workers, p.flow? = some x.id → last = some p.name

/-- Both sides have been captured, and the response has found the request. -/
def Told (s : Parties σ) (x : Exchange) : Prop :=
  ∃ asked answered, ofFlow (some x.id) s.made =
    Schema.enriched.requestEvents x.asked asked ++
      Schema.enriched.responseEvents x.answered answered
        (some (x.asked.request.captured asked.now))

end Exchange

/-- Each flow of a thread is in the stage in which the thread believes it to be. -/
structure Thread.OnCourse (s : Parties σ) (th : Thread) : Prop where
  later : ∀ x ∈ th.later, ofFlow (some x.id) s.made = []
  awaited : ∀ x ∈ th.awaited, x.Awaits s th.last
  done : ∀ x ∈ th.done, x.Told s

namespace Thread

variable {s s' : Parties σ} {th : Thread}

lemma mem_exchanges {x : Exchange} :
    x ∈ th.exchanges ↔ x ∈ th.done ∨ x ∈ th.awaited ∨ x ∈ th.later := by
  simp [exchanges]

/-- What is said of a thread depends on the events made of its flows, on the requests of its flows
that wait, and on the producers that work for them. -/
lemma OnCourse.congr (h : th.OnCourse s)
    (hmade : ∀ x ∈ th.exchanges, ofFlow (some x.id) s'.made = ofFlow (some x.id) s.made)
    (hentries : ∀ x ∈ th.exchanges, ∀ w ∈ s.pipeline.cache.entries, w.id = x.id →
      w ∈ s'.pipeline.cache.entries)
    (hworkers : ∀ x ∈ th.exchanges, ∀ p ∈ s'.workers, p.flow? = some x.id →
      ∃ q ∈ s.workers, q.flow? = some x.id ∧ q.name = p.name) : th.OnCourse s' := by
  constructor
  · intro x hx
    rw [hmade x (mem_exchanges.mpr (.inr (.inr hx)))]
    exact h.later x hx
  · intro x hx
    have hmem : x ∈ th.exchanges := mem_exchanges.mpr (.inr (.inl hx))
    obtain ⟨moment, htold, hentry, hlast⟩ := h.awaited x hx
    refine ⟨moment, (hmade x hmem).trans htold, hentries x hmem _ hentry rfl, ?_⟩
    intro p hp hflow
    obtain ⟨q, hq, hflow', hname⟩ := hworkers x hmem p hp hflow
    rw [← hname]
    exact hlast q hq hflow'
  · intro x hx
    obtain ⟨asked, answered, htold⟩ := h.done x hx
    exact ⟨asked, answered, (hmade x (mem_exchanges.mpr (.inl hx))).trans htold⟩

/-- The capture of a flow that is none of a thread's leaves the thread on its course. -/
lemma OnCourse.capture {flow : Flow} {moment : Moment} (h : th.OnCourse s)
    (hschema : s.pipeline.schema = .enriched) (hpos : 0 < s.pipeline.cache.ttl)
    (hfresh : s.pipeline.cache.AllFresh moment.stamp) (side : Direction) (host : Host)
    (hapart : ∀ x ∈ th.exchanges, x.id ≠ flow.id) :
    th.OnCourse (s.capture side host flow moment) := by
  refine h.congr (fun x hx => ?_) (fun x hx w hw hwid => ?_) (fun x hx p hp hflow => ?_)
  · exact Parties.ofFlow_made_capture hschema side host moment (hapart x hx)
  · refine Parties.mem_entries_capture hschema hpos hfresh side host hw ?_
    rw [hwid]
    exact hapart x hx
  · rcases Parties.mem_workers_capture hschema hp with ⟨-, hnew⟩ | hp
    · rw [hflow, Option.some.injEq] at hnew
      exact absurd hnew (hapart x hx)
    · exact ⟨p, hp, hflow, rfl⟩

end Thread

end TrafficFeed
