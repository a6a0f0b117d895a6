import Mathlib.Algebra.GroupWithZero.Nat
import TrafficFeed.Proofs.Correlation.Ledger
import TrafficFeed.Proofs.Parties.Progress
import TrafficFeed.Proofs.Parties.Recall

/-!
# The census of the requests that wait

What is shown of the requests that wait follows the captures and sweeps, each of which is one step:
the gauge and the counter of evictions agree with what waits after every step. In the enriched
schema every response is a hit or a miss, and every request was found by its response, was evicted,
still waits, or has given way to a later one of its flow. In the plain schema nothing waits at all.
-/

namespace TrafficFeed

open TrafficFeed.Pipeline TrafficFeed.Transport

variable {σ : Type}

/-! ### Where the stored requests are -/

namespace Correlation

/-- Whether an entry is stored. -/
def Mark.stores : Mark → Bool
  | .stored _ => true
  | .taken _ | .swept _ => false

/-- Whether a store takes the place of an entry under the same identity. -/
def replaced (c : Correlation) : Mark → Nat
  | .stored w => if c.get? w.id = none then 0 else 1
  | .taken _ | .swept _ => 0

/-- Whether a take finds a request. -/
def returned (c : Correlation) : Mark → Nat
  | .taken id => if c.get? id = none then 0 else 1
  | .stored _ | .swept _ => 0

/-- How many entries a sweep evicts. -/
def expired (c : Correlation) : Mark → Nat
  | .swept now => c.staleCount now
  | .stored _ | .taken _ => 0

variable {c : Correlation}

/-- What is stored is one entry more, unless it takes the place of another. -/
lemma size_mark (h : (c.entries.map (·.id)).Nodup) (m : Mark) :
    c.returned m + c.expired m + (c.mark m).size + c.replaced m =
      c.size + if m.stores then 1 else 0 := by
  cases m with
  | stored w =>
    have hput : (c.mark (.stored w)).size = c.size + if c.get? w.id = none then 1 else 0 :=
      size_put h w.id w.request w.since
    rw [hput]
    simp only [returned, expired, replaced, Mark.stores]
    split <;> simp
  | taken id =>
    have htake : (c.mark (.taken id)).size + c.returned (.taken id) = c.size := size_take h id
    simp only [expired, replaced, Mark.stores, Bool.false_eq_true, if_false]
    omega
  | swept now =>
    have hsweep : (c.mark (.swept now)).size + c.expired (.swept now) = c.size := sweep_count c now
    simp only [returned, replaced, Mark.stores, Bool.false_eq_true, if_false]
    omega

/-- Every entry that was stored has been returned, or has expired, or is there, or was replaced. -/
lemma countP_stores (hc : c.entries = []) (marks : List Mark) :
    marks.countP Mark.stores = (readings returned c marks).sum + (readings expired c marks).sum +
      (c.replay marks).size + (readings replaced c marks).sum := by
  induction marks using List.reverseRecOn with
  | nil => simp [size, hc]
  | append_singleton marks m ih =>
    have hmark := size_mark (nodup_replay hc marks) m
    simp only [List.countP_append, List.countP_singleton, readings_concat, List.sum_append,
      List.sum_singleton, replay_concat]
    omega

lemma evicted_mark (c : Correlation) (m : Mark) :
    (c.mark m).evicted = c.evicted + UInt64.ofNat (c.expired m) := by
  cases m with
  | stored | taken => exact (UInt64.add_zero _).symm
  | swept now => rfl

/-- What is counted of evictions is their sum. -/
lemma evicted_replay (hc : c.evicted = 0) (marks : List Mark) :
    (c.replay marks).evicted = UInt64.ofNat (readings expired c marks).sum := by
  induction marks using List.reverseRecOn with
  | nil => exact hc
  | append_singleton marks m ih =>
    rw [replay_concat, evicted_mark, ih, readings_concat, List.sum_append, List.sum_singleton,
      UInt64.ofNat_add]

end Correlation

/-! ### What is shown -/

namespace Pipeline

/-- The gauge and the counter of evictions agree with what waits. -/
structure Shows (p : Pipeline σ) : Prop where
  entries : p.metrics.entries = Int64.ofInt p.pending
  evictions : p.metrics.evictions = p.cache.evicted

variable {p p' : Pipeline σ}

lemma Shows.congr (h : Shows p) (hcache : p'.cache = p.cache)
    (hentries : p'.metrics.entries = p.metrics.entries)
    (hevictions : p'.metrics.evictions = p.metrics.evictions) : Shows p' := by
  refine ⟨?_, ?_⟩
  · rw [hentries, h.entries, pending, pending, hcache]
  · rw [hevictions, h.evictions, hcache]

lemma Shows.touched (h : Shows p) {cache : Correlation} {evicted : Nat}
    (hcache : cache.evicted = p.cache.evicted + UInt64.ofNat evicted) :
    Shows (p.touched cache evicted) := by
  refine ⟨rfl, ?_⟩
  change p.metrics.evictions + UInt64.ofNat evicted = cache.evicted
  rw [h.evictions, hcache]

lemma Shows.requestEvents (h : Shows p) (flow : Flow) (moment : Moment) :
    Shows (p.requestEvents flow moment).2.2 := by
  unfold Pipeline.requestEvents
  cases p.schema with
  | plain => exact h
  | enriched => exact h.touched (Correlation.evicted_store _ _ _ _)

lemma Shows.responseEvents (h : Shows p) (flow : Flow) (moment : Moment) :
    Shows (p.responseEvents flow moment).2.2 := by
  unfold Pipeline.responseEvents
  cases flow.response with
  | none => exact h
  | some response =>
    cases p.schema with
    | plain => exact h
    | enriched =>
      have htouched : Shows (p.touched (p.cache.take flow.id).2 0) :=
        h.touched (UInt64.add_zero _).symm
      simp only [Correlation.take] at htouched ⊢
      cases p.cache.get? flow.id with
      | some request => exact htouched
      | none => exact htouched.congr rfl rfl rfl

lemma Shows.eventsOf (h : Shows p) (side : Direction) (flow : Flow) (moment : Moment) :
    Shows (p.eventsOf side flow moment).2.2 := by
  cases side with
  | request => exact h.requestEvents flow moment
  | response => exact h.responseEvents flow moment

lemma Shows.sweep (h : Shows p) (now : Nat) : Shows (p.sweep now).2 := by
  have hevicted : (p.cache.sweep now).2.evicted =
      p.cache.evicted + UInt64.ofNat (p.cache.sweep now).1 := rfl
  exact h.touched hevicted

end Pipeline

/-- Neither the end of a send nor that of a publication bears on what is shown of requests. -/
lemma Delivery.metrics_tally (outcome : Transport.Outcome) (m : Metrics) :
    (tally outcome m).entries = m.entries ∧ (tally outcome m).evictions = m.evictions ∧
      (tally outcome m).misses = m.misses := by
  unfold tally
  split
  · exact ⟨rfl, rfl, rfl⟩
  · split <;> exact ⟨rfl, rfl, rfl⟩

/-! ### What is counted -/

namespace Report

/-- Whether a request was captured. -/
def asks : Report → Bool
  | .requested .. => true
  | .responded .. | .joined .. | .sent .. | .swept .. => false

/-- Whether a response was captured. -/
def answers : Report → Bool
  | .responded _ flow _ _ => flow.response.isSome
  | .requested .. | .joined .. | .sent .. | .swept .. => false

/-- Whether a response was captured and its request was found. -/
def hits : Report → Bool
  | .responded _ flow _ found => flow.response.isSome && found.isSome
  | .requested .. | .joined .. | .sent .. | .swept .. => false

/-- Whether a response was captured and its request was not found. -/
def misses : Report → Bool
  | .responded _ flow _ found => flow.response.isSome && found.isNone
  | .requested .. | .joined .. | .sent .. | .swept .. => false

lemma hits_of_not_answers (r : Report) (h : r.answers = false) : r.hits = false := by
  cases r <;> simp_all [answers, hits]

lemma misses_of_not_answers (r : Report) (h : r.answers = false) : r.misses = false := by
  cases r <;> simp_all [answers, misses]

end Report

namespace Parties

def requests (s : Parties σ) : Nat := s.history.countP Report.asks

def answers (s : Parties σ) : Nat := s.history.countP Report.answers

def hits (s : Parties σ) : Nat := s.history.countP Report.hits

def misses (s : Parties σ) : Nat := s.history.countP Report.misses

/-- How many requests have taken the place of one of the same flow that still waited, where nothing
waited at the start. -/
def replaced (ttl limit : Nat) (s : Parties σ) : Nat :=
  (Correlation.readings Correlation.replaced (Correlation.new ttl limit) s.marks).sum

lemma answers_eq (s : Parties σ) : s.answers = s.hits + s.misses := by
  unfold answers hits misses
  induction s.history with
  | nil => rfl
  | cons r history ih =>
    rw [List.countP_cons, List.countP_cons, List.countP_cons, ih]
    have hr : (if r.answers then 1 else 0) =
        (if r.hits then 1 else 0) + if r.misses then 1 else 0 := by
      cases r with
      | responded n flow moment found =>
        cases hresponse : flow.response <;> cases found <;>
          simp [Report.answers, Report.hits, Report.misses, hresponse]
      | requested | joined | sent | swept => rfl
    omega

lemma countP_stores_marks (s : Parties σ) :
    s.marks.countP Correlation.Mark.stores = s.requests := by
  rw [marks, List.countP_filterMap, requests]
  congr 1
  funext r
  cases r with
  | responded n flow moment found =>
    simp only [Report.mark?, Report.asks]
    split <;> rfl
  | requested | joined | sent | swept => rfl

variable {s s' : Parties σ}

/-! ### Steps -/

lemma Turned.shown_eq (h : Turned s s') :
    s'.pipeline.metrics.entries = s.pipeline.metrics.entries ∧
      s'.pipeline.metrics.evictions = s.pipeline.metrics.evictions ∧
      s'.pipeline.metrics.misses = s.pipeline.metrics.misses := by
  cases h with
  | nothing | cancels | wakes | receives | stops | closes | parks => exact ⟨rfl, rfl, rfl⟩
  | enters | resumes => exact ⟨rfl, rfl, rfl⟩
  | refused | fails => simp [metrics, offerCounter, Metrics.count, Metrics.add]
  | delivers e he =>
    simp only [metrics, Delivery.deliver_state]
    exact Delivery.metrics_tally _ _

section

variable {p : Report → Bool} (hp : ∀ r : Report, r.answers = false → p r = false)

include hp

lemma countP_turned (h : Turned s s') : s'.history.countP p = s.history.countP p := by
  cases Worked.of_turned h with
  | rests _ hhistory => rw [hhistory]
  | sends q others r _ _ hhistory =>
    rw [hhistory, List.countP_append, List.countP_singleton, hp _ rfl]
    rfl

lemma countP_capture (s : Parties σ) (side : Direction) (host : Host) (flow : Flow)
    (moment : Moment) : (s.capture side host flow moment).history.countP p =
      s.history.countP p + if p (s.report side flow moment) then 1 else 0 := by
  have hsweeps : (s.sweepReports side flow moment).countP p = 0 := by
    rw [List.countP_eq_zero]
    intro r hr
    rw [eq_swept_of_mem_sweepReports hr, hp _ rfl]
    exact Bool.false_ne_true
  rw [history_capture, List.countP_append, List.countP_append, List.countP_append, hsweeps,
    List.countP_singleton, List.countP_singleton, hp (.joined _ _ _) rfl]
  simp

end

/-! ### The census along a run -/

lemma shows_perform (h : Shows s.pipeline) (actions : List Action) :
    Shows (s.perform actions).pipeline := by
  apply perform_induction (P := fun s : Parties σ => Shows s.pipeline) h
  · exact fun s side host flow moment h _ => h.eventsOf side flow moment
  · exact fun s now h => h.sweep now
  · exact fun s h _ => h.congr rfl rfl rfl
  · intro s s' h ht
    obtain ⟨hentries, hevictions, -⟩ := ht.shown_eq
    exact h.congr ht.cache_eq.2 hentries hevictions

/-- Hits are requests that were taken out, and misses are counted. -/
structure Census (ttl limit : Nat) (s : Parties σ) : Prop where
  recalls : Recalls ttl limit s
  hits : s.hits =
    (Correlation.readings Correlation.returned (Correlation.new ttl limit) s.marks).sum
  misses : s.pipeline.metrics.misses = UInt64.ofNat s.misses

variable {ttl limit : Nat}

lemma Census.turned (h : Census ttl limit s) (ht : Turned s s') : Census ttl limit s' := by
  refine ⟨h.recalls.turned ht, ?_, ?_⟩
  · rw [ht.marks_eq, ← h.hits]
    exact countP_turned Report.hits_of_not_answers ht
  · rw [ht.shown_eq.2.2, h.misses, Parties.misses, Parties.misses,
      countP_turned Report.misses_of_not_answers ht]

lemma Census.request (h : Census ttl limit s) (host : Host) (flow : Flow) (moment : Moment) :
    Census ttl limit (s.capture .request host flow moment) := by
  refine ⟨h.recalls.capture _ _ _ _, ?_, ?_⟩
  · have hnone : ∀ c, (Correlation.readings Correlation.returned c
        ((s.report .request flow moment :: s.sweepReports .request flow moment).filterMap
          Report.mark?)).sum = 0 := by
      intro c
      simp only [report, sweepReports]
      split <;> rfl
    rw [marks_capture, Correlation.readings_append, List.sum_append, hnone, ← h.hits]
    exact countP_capture Report.hits_of_not_answers s _ _ _ _
  · have hmetrics : (s.capture .request host flow moment).pipeline.metrics.misses =
        s.pipeline.metrics.misses := by
      change (s.pipeline.requestEvents flow moment).2.2.metrics.misses = _
      simp only [requestEvents, h.recalls.schema]
      rfl
    have hcount : (s.capture .request host flow moment).misses = s.misses :=
      countP_capture Report.misses_of_not_answers s _ _ _ _
    rw [hmetrics, hcount]
    exact h.misses

lemma marks_capture_response (s : Parties σ) (host : Host) (flow : Flow) (moment : Moment) :
    (s.capture .response host flow moment).marks =
      s.marks ++ if flow.response.isSome then [.taken flow.id] else [] := by
  rw [marks_capture]
  simp only [report, sweepReports, List.filterMap_cons, List.filterMap_nil, Report.mark?]
  split <;> simp_all

lemma Census.response (h : Census ttl limit s) (host : Host) (flow : Flow) (moment : Moment) :
    Census ttl limit (s.capture .response host flow moment) := by
  have hhits : (s.capture .response host flow moment).hits = _ :=
    countP_capture Report.hits_of_not_answers s _ _ _ _
  have hmisses : (s.capture .response host flow moment).misses = _ :=
    countP_capture Report.misses_of_not_answers s _ _ _ _
  have hmetrics : (s.capture .response host flow moment).pipeline.metrics.misses =
      (s.pipeline.responseEvents flow moment).2.2.metrics.misses := rfl
  refine ⟨h.recalls.capture _ _ _ _, ?_, ?_⟩
  · rw [hhits, marks_capture_response, Correlation.readings_append, List.sum_append, ← h.hits,
      ← h.recalls.cache]
    cases hr : flow.response with
    | none => simp [Parties.hits, report, Report.hits, hr]
    | some response =>
      have hfound := found_of_some h.recalls.schema hr
      cases hget : s.pipeline.cache.get? flow.id <;>
        simp [Parties.hits, report, Report.hits, hr, hfound, Correlation.readings,
          Correlation.returned, hget]
  · rw [hmisses, hmetrics]
    cases hr : flow.response with
    | none =>
      rw [responseEvents_of_none hr, h.misses]
      simp [Parties.misses, report, Report.misses, hr]
    | some response =>
      have hfound := found_of_some h.recalls.schema hr
      rw [misses_responseEvents h.recalls.schema hr, h.misses, UInt64.ofNat_add]
      cases hget : s.pipeline.cache.get? flow.id <;>
        simp [Parties.misses, report, Report.misses, hr, hfound, hget]

lemma Census.sweep (h : Census ttl limit s) (now : Nat) : Census ttl limit (s.sweep now) := by
  have hmarks : (s.sweep now).marks = s.marks ++ [.swept now] := by
    simp [marks, Parties.sweep, note, Report.mark?]
  have hcount : ∀ p : Report → Bool, (∀ r : Report, r.answers = false → p r = false) →
      (s.sweep now).history.countP p = s.history.countP p := by
    intro p hp
    rw [Parties.sweep, note, List.countP_append, List.countP_singleton, hp _ rfl]
    rfl
  refine ⟨h.recalls.sweep now, ?_, ?_⟩
  · rw [hmarks, Correlation.readings_concat, List.sum_append, ← h.hits]
    exact hcount _ Report.hits_of_not_answers
  · rw [Parties.misses, hcount _ Report.misses_of_not_answers]
    exact h.misses

lemma Census.perform (h : Census ttl limit s) (actions : List Action) :
    Census ttl limit (s.perform actions) := by
  apply perform_induction (P := Census ttl limit) h
  · intro s side host flow moment h _
    cases side with
    | request => exact h.request host flow moment
    | response => exact h.response host flow moment
  · exact fun s now h => h.sweep now
  · exact fun s h _ => ⟨⟨h.recalls.schema, h.recalls.cache⟩, h.hits, h.misses⟩
  · exact fun s s' h ht => h.turned ht

/-- Nothing waits, and nothing ever did. -/
structure Blank (s : Parties σ) : Prop where
  schema : s.pipeline.schema = .plain
  entries : s.pipeline.cache.entries = []
  evicted : s.pipeline.cache.evicted = 0
  misses : s.pipeline.metrics.misses = 0

lemma eventsOf_of_plain {p : Pipeline σ} (h : p.schema = .plain) (side : Direction) (flow : Flow)
    (moment : Moment) : (p.eventsOf side flow moment).2.2 = p := by
  cases side with
  | request => simp only [eventsOf, requestEvents, h]
  | response => cases hr : flow.response <;> simp only [eventsOf, responseEvents, h, hr]

lemma Blank.perform (h : Blank s) (actions : List Action) : Blank (s.perform actions) := by
  apply perform_induction (P := Blank) h
  · intro s side host flow moment h _
    have hpipeline : (s.capture side host flow moment).pipeline = s.pipeline :=
      eventsOf_of_plain h.schema side flow moment
    refine ⟨?_, ?_, ?_, ?_⟩ <;> rw [hpipeline]
    exacts [h.schema, h.entries, h.evicted, h.misses]
  · intro s now h
    have hnone : (s.pipeline.cache.sweep now).1 = 0 := by
      simp [Correlation.sweep, Correlation.staleCount, h.entries]
    refine ⟨h.schema, ?_, ?_, h.misses⟩
    · change (s.pipeline.cache.sweep now).2.entries = []
      simp [h.entries]
    · change s.pipeline.cache.evicted + UInt64.ofNat (s.pipeline.cache.sweep now).1 = 0
      rw [hnone, h.evicted]
      rfl
  · exact fun s h _ => ⟨h.schema, h.entries, h.evicted, h.misses⟩
  · intro s s' h ht
    obtain ⟨hschema, hcache⟩ := ht.cache_eq
    refine ⟨hschema.trans h.schema, ?_, ?_, ht.shown_eq.2.2.trans h.misses⟩ <;> rw [hcache]
    exacts [h.entries, h.evicted]

/-! ### The balance -/

lemma Census.answers_eq (h : Census ttl limit s) (hcount : s.answers < UInt64.size) :
    s.answers = s.hits + s.pipeline.metrics.misses.toNat := by
  have hall := s.answers_eq
  rw [h.misses, UInt64.toNat_ofNat_of_lt' (by omega)]
  exact hall

lemma Census.requests_eq (h : Census ttl limit s) (hshows : Shows s.pipeline)
    (hcount : s.requests < UInt64.size) :
    s.requests = s.hits + s.pipeline.metrics.evictions.toNat + s.pipeline.pending +
      s.replaced ttl limit := by
  have hall := Correlation.countP_stores (c := .new ttl limit) rfl s.marks
  have hevicted := Correlation.evicted_replay (c := .new ttl limit) rfl s.marks
  rw [countP_stores_marks, ← h.hits, ← h.recalls.cache] at hall
  rw [← h.recalls.cache, ← hshows.evictions] at hevicted
  rw [hevicted, UInt64.toNat_ofNat_of_lt' (by omega)]
  exact hall

/-- After every capture and sweep, and whatever else happens between them: the gauge shows how many
requests wait, and the counter of evictions what has been evicted. In the enriched schema each
response that was captured is a hit or a counted miss, and each request was hit, or evicted, or
waits, or was replaced while it waited by a later request of its flow. In the plain schema nothing
waits and nothing is counted. -/
theorem census_perform (t : Transport σ) (connection : σ) (settings : Settings)
    (queue : Queue Event) (actions : List Action) :
    let s := (new (Pipeline.new t settings connection queue)).perform actions
    let m := s.pipeline.metrics
    (s.pipeline.pending < 2 ^ 63 → m.entries.toInt = s.pipeline.pending) ∧
    m.evictions = s.pipeline.cache.evicted ∧
    (settings.schema = .enriched →
      (s.answers < UInt64.size → s.answers = s.hits + m.misses.toNat) ∧
      (s.requests < UInt64.size → s.requests = s.hits + m.evictions.toNat + s.pipeline.pending +
        s.replaced settings.cacheTtl settings.cacheLimit)) ∧
    (settings.schema = .plain → s.pipeline.pending = 0 ∧ m.entries = 0 ∧ m.evictions = 0 ∧
      s.pipeline.cache.evicted = 0 ∧ m.misses = 0) := by
  intro s m
  have hshows : Shows s.pipeline := shows_perform ⟨rfl, rfl⟩ actions
  refine ⟨fun hpending => ?_, hshows.evictions, fun hschema => ?_, fun hschema => ?_⟩
  · rw [hshows.entries]
    exact Int64.toInt_ofInt_of_le (by omega) (by omega)
  · have h : Census settings.cacheTtl settings.cacheLimit s :=
      Census.perform ⟨.new t connection hschema queue, rfl, rfl⟩ actions
    exact ⟨h.answers_eq, h.requests_eq hshows⟩
  · have h : Blank s := Blank.perform ⟨hschema, rfl, rfl, rfl⟩ actions
    have hpending : s.pipeline.pending = 0 := by
      rw [Pipeline.pending, Correlation.size, h.entries]
      rfl
    refine ⟨hpending, ?_, hshows.evictions.trans h.evicted, h.evicted, h.misses⟩
    rw [hshows.entries, hpending]
    rfl

/-- A request that is captured twice, and one more; the end; a response that finds its request; a
request after the end, a sweep that evicts the other, and its response that misses it. -/
theorem census_perform_of_late_miss :
    let flow (id : String) := Flow.simple ⟨id⟩ "/a"
    let ttl := Settings.default.cacheTtl
    let actions : List Action :=
      [.capture .request .task (flow "F1" false) (.simple 0),
        .capture .request .task (flow "F1" false) (.simple 1),
        .capture .request .task (flow "F2" false) (.simple 1),
        .turn .wake, .turn .cancel, .turn .close, .turn .receive,
        .capture .response .task (flow "F1" true) (.simple 2),
        .capture .request .task (flow "F3" false) (.simple ttl), .sweep (ttl + 1),
        .capture .response .task (flow "F2" true) (.simple (ttl + 2))]
    let s := (new (Pipeline.new Script.transport Settings.default (Script.new [] [])
      (Queue.new 1 .block))).perform actions
    let m := s.pipeline.metrics
    (s.pipeline.worker = .stopped ∧ s.requests = 4 ∧ s.answers = 2 ∧ s.hits = 1 ∧
      s.pipeline.pending = 1) ∧
    m.entries.toInt = s.pipeline.pending ∧ s.answers = s.hits + m.misses.toNat ∧
    s.requests = s.hits + m.evictions.toNat + s.pipeline.pending +
      s.replaced ttl Settings.default.cacheLimit := by
  intro flow ttl actions s m
  obtain ⟨hentries, -, henriched, -⟩ := census_perform Script.transport (Script.new [] [])
    Settings.default (Queue.new 1 .block) actions
  obtain ⟨hanswers, hrequests⟩ := henriched rfl
  exact ⟨by decide +kernel, hentries (by decide +kernel), hanswers (by decide +kernel),
    hrequests (by decide +kernel)⟩

end Parties

end TrafficFeed
