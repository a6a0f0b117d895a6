import TrafficFeed.Proofs.Parties.Capture

/-!
# Responses and their requests

What a response finds of its request depends on what has happened before it alone: on the latest
capture of a request of the flow, and on whether a response of the flow was captured since then, or
a sweep found the request stale. What happens to other flows matters only as far as it makes sweeps.
-/

namespace TrafficFeed

open TrafficFeed.Pipeline TrafficFeed.Transport

variable {σ : Type}

/-- Whether what happened ends the wait of the request of a flow that was captured at `stamp`. -/
def Report.ends (ttl : Nat) (id : FlowId) (stamp : Nat) : Report → Prop
  | .requested _ flow _ => flow.id = id
  | .responded _ flow _ _ => flow.id = id ∧ flow.response ≠ none
  | .swept now => ttl ≤ now - stamp
  | .joined .. | .sent .. => False

/-- The entry of a captured request. -/
def Flow.waiting (flow : Flow) (moment : Moment) : Waiting :=
  ⟨flow.id, flow.request.captured moment.now, moment.stamp⟩

namespace Parties

/-- What is written down of the requests that wait. -/
def marks (s : Parties σ) : List Correlation.Mark := s.history.filterMap Report.mark?

/-- The request of a flow was captured at a moment, and nothing has ended its wait since. -/
def Remembers (s : Parties σ) (ttl : Nat) (id : FlowId) (asked : Flow) (moment : Moment) : Prop :=
  ∃ n before after, s.history = before ++ .requested n asked moment :: after ∧ asked.id = id ∧
    ∀ r ∈ after, ¬ r.ends ttl id moment.stamp

/-! ### What is kept and what has been written down -/

lemma ends_of_mark? {r : Report} {m : Correlation.Mark} (h : r.mark? = some m) (ttl : Nat)
    (w : Waiting) : m.ends ttl w = true ↔ r.ends ttl w.id w.since := by
  cases r with
  | joined | sent => cases h
  | requested n flow moment =>
    cases h
    simp [Correlation.Mark.ends, Report.ends]
  | responded n flow moment found =>
    simp only [Report.mark?] at h
    split at h
    · next hr =>
      cases h
      have hne : flow.response ≠ none := Option.isSome_iff_ne_none.mp hr
      simp [Correlation.Mark.ends, Report.ends, hne]
    · cases h
  | swept now =>
    cases h
    simp [Correlation.Mark.ends, Report.ends, Correlation.fresh]

lemma not_ends_of_mark? {r : Report} (h : r.mark? = none) (ttl : Nat) (id : FlowId)
    (stamp : Nat) : ¬ r.ends ttl id stamp := by
  cases r with
  | joined | sent => exact not_false
  | requested | swept => cases h
  | responded n flow moment found =>
    intro hends
    have hsome : flow.response.isSome = true := Option.isSome_iff_ne_none.mpr hends.2
    simp [Report.mark?, hsome] at h

lemma eq_requested_of_mark? {r : Report} {w : Waiting} (h : r.mark? = some (.stored w)) :
    ∃ n flow moment, r = .requested n flow moment ∧ w = flow.waiting moment := by
  cases r with
  | joined | sent | swept => cases h
  | requested n flow moment =>
    cases h
    exact ⟨n, flow, moment, rfl, rfl⟩
  | responded n flow moment found =>
    simp only [Report.mark?] at h
    split at h <;> cases h

/-- An entry is kept as long as the request behind it is remembered. -/
lemma kept_marks_iff (s : Parties σ) (ttl : Nat) (w : Waiting) :
    Correlation.Kept ttl s.marks w ↔
      ∃ asked moment, s.Remembers ttl w.id asked moment ∧ w = asked.waiting moment := by
  constructor
  · rintro ⟨before, after, h, hafter⟩
    obtain ⟨reports, rest, hhistory, -, hrest⟩ := List.filterMap_eq_append_iff.mp h
    obtain ⟨aside, r, later, rfl, -, hr, rfl⟩ := List.filterMap_eq_cons_iff.mp hrest
    obtain ⟨n, asked, moment, rfl, rfl⟩ := eq_requested_of_mark? hr
    refine ⟨asked, moment, ⟨n, reports ++ aside, later, ?_, rfl, fun x hx => ?_⟩, rfl⟩
    · rw [hhistory, List.append_assoc]
    · cases hm : x.mark? with
      | none => exact not_ends_of_mark? hm _ _ _
      | some m =>
        have hfalse := hafter m (List.mem_filterMap.mpr ⟨x, hx, hm⟩)
        intro hends
        have htrue := (ends_of_mark? hm ttl (asked.waiting moment)).mpr hends
        rw [hfalse] at htrue
        cases htrue
  · rintro ⟨asked, moment, ⟨n, before, after, h, -, hafter⟩, rfl⟩
    refine ⟨before.filterMap Report.mark?, after.filterMap Report.mark?, ?_, fun m hm => ?_⟩
    · rw [marks, h, List.filterMap_append, List.filterMap_cons]
      rfl
    · obtain ⟨x, hx, hm⟩ := List.mem_filterMap.mp hm
      rw [← Bool.not_eq_true, ends_of_mark? hm]
      exact hafter x hx

/-! ### The cache along a run -/

/-- The requests that wait are those of the history. -/
structure Recalls (ttl limit : Nat) (s : Parties σ) : Prop where
  schema : s.pipeline.schema = .enriched
  cache : s.pipeline.cache = (Correlation.new ttl limit).replay s.marks

variable {ttl limit : Nat} {s s' : Parties σ}

lemma Turned.marks_eq (h : Turned s s') : s'.marks = s.marks := by
  cases h <;> simp [marks, cancel, stop, Report.mark?]

lemma Recalls.turned (h : Recalls ttl limit s) (ht : Turned s s') : Recalls ttl limit s' := by
  obtain ⟨hschema, hcache⟩ := ht.cache_eq
  exact ⟨hschema.trans h.schema, by rw [hcache, h.cache, ht.marks_eq]⟩

lemma marks_capture (s : Parties σ) (side : Direction) (host : Host) (flow : Flow)
    (moment : Moment) : (s.capture side host flow moment).marks = s.marks ++
      (s.report side flow moment :: s.sweepReports side flow moment).filterMap Report.mark? := by
  rw [capture_eq]
  change (s.history ++ (_ :: _) ++ [Report.joined _ _ _]).filterMap Report.mark? = _
  rw [List.filterMap_append, List.filterMap_append]
  exact List.append_nil _

lemma cache_requestEvents {p : Pipeline σ} (h : p.schema = .enriched) (flow : Flow)
    (moment : Moment) : (p.requestEvents flow moment).2.2.cache =
      (p.cache.store flow.id (flow.request.captured moment.now) moment.stamp).2 := by
  simp only [requestEvents, h]
  rfl

lemma cache_responseEvents {p : Pipeline σ} (h : p.schema = .enriched) (flow : Flow)
    (moment : Moment) : (p.responseEvents flow moment).2.2.cache =
      if flow.response.isSome then (p.cache.take flow.id).2 else p.cache := by
  unfold responseEvents
  cases flow.response with
  | none => rfl
  | some response =>
    simp only [h]
    cases (p.cache.take flow.id).1 <;> rfl

lemma Recalls.capture (h : Recalls ttl limit s) (side : Direction) (host : Host) (flow : Flow)
    (moment : Moment) : Recalls ttl limit (s.capture side host flow moment) := by
  refine ⟨(Alike.eventsOf s.pipeline side flow moment).schema.trans h.schema, ?_⟩
  rw [marks_capture, Correlation.replay_append, ← h.cache]
  change (s.pipeline.eventsOf side flow moment).2.2.cache = _
  cases side with
  | request =>
    rw [eventsOf, cache_requestEvents h.schema, Correlation.store_eq_replay]
    congr 1
    simp only [report, sweepReports, sweepsFor, h.schema, List.filterMap_cons, Report.mark?]
    split <;> simp_all [Report.mark?]
  | response =>
    rw [eventsOf, cache_responseEvents h.schema]
    simp only [report, sweepReports, List.filterMap_cons, Report.mark?]
    cases flow.response <;> rfl

lemma Recalls.sweep (h : Recalls ttl limit s) (now : Nat) :
    Recalls ttl limit (s.sweep now) := by
  refine ⟨h.schema, ?_⟩
  have hmarks : (s.sweep now).marks = s.marks ++ [.swept now] := by
    simp [marks, Parties.sweep, note, Report.mark?]
  rw [hmarks, Correlation.replay_concat, ← h.cache]
  rfl

lemma Recalls.perform (h : Recalls ttl limit s) (actions : List Action) :
    Recalls ttl limit (s.perform actions) := by
  apply perform_induction (P := Recalls ttl limit) h
  · exact fun s side host flow moment h _ => h.capture side host flow moment
  · exact fun s now h => h.sweep now
  · exact fun s h _ => ⟨h.schema, h.cache⟩
  · exact fun s s' h ht => h.turned ht

lemma Recalls.new (t : Transport σ) (connection : σ) {settings : Settings}
    (h : settings.schema = .enriched) (queue : Queue Event) :
    Recalls settings.cacheTtl settings.cacheLimit
      (new (Pipeline.new t settings connection queue)) :=
  ⟨h, rfl⟩

/-! ### What a response finds -/

lemma Recalls.get?_eq_some_iff (h : Recalls ttl limit s) (id : FlowId)
    (request : CapturedRequest) :
    s.pipeline.cache.get? id = some request ↔
      ∃ asked moment, s.Remembers ttl id asked moment ∧
        request = asked.request.captured moment.now := by
  rw [h.cache, Correlation.get?_replay]
  constructor
  · rintro ⟨w, hw, rfl, rfl⟩
    obtain ⟨asked, moment, hr, hw⟩ := (kept_marks_iff s ttl w).mp hw
    exact ⟨asked, moment, hr, by rw [hw]; rfl⟩
  · rintro ⟨asked, moment, hr, rfl⟩
    obtain ⟨n, before, after, hs, rfl, hafter⟩ := hr
    exact ⟨asked.waiting moment, (kept_marks_iff s ttl _).mpr
      ⟨asked, moment, ⟨n, before, after, hs, rfl, hafter⟩, rfl⟩, rfl, rfl⟩

/-- A miss is counted if there is a response and nothing is found for it. -/
lemma misses_responseEvents {p : Pipeline σ} (h : p.schema = .enriched) {flow : Flow}
    {response : Http.Response} (hr : flow.response = some response) (moment : Moment) :
    (p.responseEvents flow moment).2.2.metrics.misses =
      p.metrics.misses + if (p.cache.get? flow.id).isSome then 0 else 1 := by
  simp only [responseEvents, hr, h, Correlation.take]
  cases p.cache.get? flow.id with
  | some request => exact (UInt64.add_zero _).symm
  | none => rfl

lemma responseEvents_of_none {p : Pipeline σ} {flow : Flow} (hr : flow.response = none)
    (moment : Moment) : (p.responseEvents flow moment).2.2 = p := by
  simp only [responseEvents, hr]

lemma found_of_some {p : Pipeline σ} (h : p.schema = .enriched) {flow : Flow}
    {response : Http.Response} (hr : flow.response = some response) :
    p.found flow = p.cache.get? flow.id := by
  simp only [found, hr, h]

lemma history_capture_response (h : s.pipeline.schema = .enriched) (host : Host) (flow : Flow)
    (moment : Moment) : (s.capture .response host flow moment).history = s.history ++
      [.responded s.born flow moment (s.pipeline.found flow), .joined s.born host.way
        (Schema.enriched.responseEvents flow moment (s.pipeline.found flow))] := by
  rw [capture_eq, h]
  simp [join, note, sweepReports, report, Report.events]

/-- The capture of a response, after any run of a forwarder: without a response it makes no event
and leaves everything as it is. With one it makes a summary with method, path and target of the
request of the flow that was captured last, if nothing has ended the wait of that request, and
with these three empty otherwise, which counts as a miss. Two runs that agree on the captures of the
flow and on the sweeps make the same events. -/
theorem capture_response_perform (t : Transport σ) (connection : σ) (settings : Settings)
    (hschema : settings.schema = .enriched) (queue : Queue Event) (actions : List Action)
    (host : Host) (flow : Flow) (moment : Moment) :
    let start := new (Pipeline.new t settings connection queue)
    let s := start.perform actions
    let s' := s.capture .response host flow moment
    ∃ found events,
      s'.history = s.history ++
        [.responded s.born flow moment found, .joined s.born host.way events] ∧
      (flow.response = none → events = [] ∧ s'.pipeline = s.pipeline) ∧
      ∀ response, flow.response = some response → ∃ info : FlowSummary,
        events = [.summary info, .responseDetail (response.detail (flow.connection moment.now))] ∧
        info.kind = .flowInfo ∧ info.connection.flowId = flow.id ∧
        (∀ asked earlier, s.Remembers settings.cacheTtl flow.id asked earlier →
          info.method = asked.request.method ∧ info.path = asked.request.path ∧
          info.url = asked.request.url ∧
          s'.pipeline.metrics.misses = s.pipeline.metrics.misses) ∧
        ((∀ asked earlier, ¬ s.Remembers settings.cacheTtl flow.id asked earlier) →
          info.method = "" ∧ info.path = "" ∧ info.url = "" ∧
          s'.pipeline.metrics.misses = s.pipeline.metrics.misses + 1) ∧
        ∀ others,
          (start.perform others).marks.filter (·.concerns flow.id) =
            s.marks.filter (·.concerns flow.id) →
          ((start.perform others).pipeline.responseEvents flow moment).1 = events := by
  intro start s s'
  have hstart : Recalls settings.cacheTtl settings.cacheLimit start :=
    .new t connection hschema queue
  have hs : Recalls settings.cacheTtl settings.cacheLimit s := hstart.perform actions
  have hpipeline : s'.pipeline = (s.pipeline.responseEvents flow moment).2.2 := rfl
  refine ⟨_, _, history_capture_response hs.schema host flow moment, fun hnone => ?_,
    fun response hr => ?_⟩
  · rw [hpipeline, responseEvents_of_none hnone]
    simp only [Schema.responseEvents, hnone, and_self]
  have hmisses := misses_responseEvents hs.schema hr moment
  rw [found_of_some hs.schema hr]
  refine ⟨response.summary (flow.connection moment.now) (s.pipeline.cache.get? flow.id), ?_,
    rfl, rfl, fun asked earlier hremembers => ?_, fun hforgotten => ?_, fun others hothers => ?_⟩
  · simp only [Schema.responseEvents, hr]
  · have hget := (hs.get?_eq_some_iff flow.id _).mpr ⟨asked, earlier, hremembers, rfl⟩
    rw [hpipeline, hmisses, hget]
    exact ⟨rfl, rfl, rfl, UInt64.add_zero _⟩
  · have hget : s.pipeline.cache.get? flow.id = none := by
      rw [Option.eq_none_iff_forall_ne_some]
      intro request hsome
      obtain ⟨asked, earlier, hremembers, -⟩ := (hs.get?_eq_some_iff flow.id request).mp hsome
      exact hforgotten asked earlier hremembers
    rw [hpipeline, hmisses, hget]
    exact ⟨rfl, rfl, rfl, rfl⟩
  · have hothers' := hstart.perform others
    rw [responseEvents_fst, hothers'.schema, found_of_some hothers'.schema hr, hothers'.cache,
      hs.cache, Correlation.get?_replay_congr hothers]

/-- A request that is captured once more, and a sweep at which only the first capture would have
been stale: the response tells of the second. -/
theorem capture_response_perform_of_recapture :
    let id : FlowId := ⟨"F1"⟩
    let actions : List Action :=
      [.capture .request .task (.simple id "/a" false) (.simple 0),
        .capture .request .task (.simple id "/b" false) (.simple 1),
        .sweep Settings.default.cacheTtl]
    let s := (new (Pipeline.new Script.transport Settings.default (Script.new [] [])
      (Queue.new 1 .block))).perform actions
    ∃ found events info detail,
      (s.capture .response .task (.simple id "/c" true) (.simple 2)).history = s.history ++
        [.responded s.born (.simple id "/c" true) (.simple 2) found,
          .joined s.born .task events] ∧
      events = [.summary info, .responseDetail detail] ∧ info.path = "/b" := by
  intro id actions s
  have hschema : Settings.default.schema = .enriched := rfl
  obtain ⟨found, events, hhistory, -, h⟩ := capture_response_perform Script.transport
    (Script.new [] []) Settings.default hschema (Queue.new 1 .block) actions .task
    (.simple id "/c" true) (.simple 2)
  obtain ⟨info, hevents, -, -, hinfo, -⟩ := h _ rfl
  have hs : Recalls Settings.default.cacheTtl Settings.default.cacheLimit s :=
    (Recalls.new _ _ hschema _).perform actions
  have hpath : (s.pipeline.cache.get? id).map (·.path) = some "/b" := by decide +kernel
  obtain ⟨request, hget, hrequest⟩ := Option.map_eq_some_iff.mp hpath
  obtain ⟨asked, earlier, hremembers, rfl⟩ := (hs.get?_eq_some_iff id request).mp hget
  exact ⟨found, events, info, _, hhistory, hevents,
    (hinfo asked earlier hremembers).2.1.trans hrequest⟩

end Parties

end TrafficFeed
