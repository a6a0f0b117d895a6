import TrafficFeed.Proofs.Parties.Ordering
import TrafficFeed.Proofs.Parties.Recall

/-!
# Where nothing goes wrong

A forwarder whose producers may wait at a queue that blocks, whose transport publishes whatever it
is given and none of whose requests waits too long: no event is refused, none is lost, and the
counters of what goes wrong stay at zero.
-/

namespace TrafficFeed

open TrafficFeed.Pipeline TrafficFeed.Transport

variable {σ : Type}

/-! ### Publications that succeed -/

namespace Transport

/-- The connection after some publications. -/
def after (t : Transport σ) (connection : σ) (payloads : List String) : σ :=
  payloads.foldl (fun c payload => (t.publish payload c).2) connection

/-- Whether every publication succeeds, whatever has been published before. -/
def Reliable (t : Transport σ) (connection : σ) : Prop :=
  ∀ payloads payload, (t.publish payload (t.after connection payloads)).1 = .ok

lemma Reliable.publish {t : Transport σ} {connection : σ} (h : t.Reliable connection)
    (payload : String) :
    (t.publish payload connection).1 = .ok ∧ t.Reliable (t.publish payload connection).2 :=
  ⟨h [] payload, fun payloads => h (payload :: payloads)⟩

/-- A script without outcomes is one of successes. -/
lemma Script.reliable_new (rebuilds : List Outcome) :
    transport.Reliable (Script.new [] rebuilds) := by
  have hafter : ∀ payloads (c : Script), c.publishes = [] →
      (transport.after c payloads).publishes = [] := by
    intro payloads
    induction payloads with
    | nil => exact fun c h => h
    | cons payload payloads ih =>
      intro c h
      exact ih _ (by simp [transport, next, h])
  intro payloads payload
  change (next (transport.after (Script.new [] rebuilds) payloads).publishes).1 = .ok
  rw [hafter payloads _ rfl]
  rfl

end Transport

lemma Delivery.deliver_reliable {t : Transport σ} {s : State (σ × List Call)}
    (h : t.Reliable s.connection.1) (e : Event) :
    t.Reliable (deliver t.traced e s).2.2.connection.1 ∧
      (deliver t.traced e s).2.2.connection.2 = s.connection.2 ++ [.publish e.payload .ok] ∧
      (deliver t.traced e s).2.2.metrics = s.metrics.count .published := by
  obtain ⟨hok, hrest⟩ := h.publish e.payload
  simp [deliver_state, traced, hok, hrest, tally]

/-! ### Requests that are found -/

namespace Correlation

variable {c : Correlation} {now : Nat}

/-- Whether no request has waited for its time to live at a moment. -/
def AllFresh (c : Correlation) (now : Nat) : Prop := ∀ w ∈ c.entries, fresh c.ttl now w = true

instance (c : Correlation) (now : Nat) : Decidable (c.AllFresh now) :=
  inferInstanceAs (Decidable (∀ w ∈ c.entries, _))

lemma AllFresh.sweep (h : c.AllFresh now) :
    (c.sweep now).1 = 0 ∧ (c.sweep now).2.entries = c.entries := by
  constructor
  · simp only [Correlation.sweep, staleCount]
    rw [List.length_eq_zero_iff, List.filter_eq_nil_iff]
    intro w hw
    simp [h w hw]
  · rw [entries_sweep, List.filter_eq_self]
    exact h

/-- A store that sweeps evicts nothing, since what is stored is fresh as well. -/
lemma AllFresh.store (h : c.AllFresh now) (hpos : 0 < c.ttl) (id : FlowId)
    (request : CapturedRequest) :
    (c.store id request now).1 = 0 ∧
      (c.store id request now).2.entries = (c.put id request now).entries := by
  have hput : (c.put id request now).AllFresh now := by
    intro w hw
    rcases List.mem_cons.mp hw with rfl | hw
    · simpa [fresh, put] using hpos
    · exact h w (List.mem_of_mem_filter hw)
  unfold Correlation.store
  dsimp only
  split
  · exact hput.sweep
  · exact ⟨rfl, rfl⟩

end Correlation

namespace Pipeline

/-- Nothing is counted where nothing is evicted. -/
lemma get_touched (p : Pipeline σ) (cache : Correlation) (c : Counter) :
    (p.touched cache 0).metrics.get c = p.metrics.get c := by
  cases c <;> simp [touched, showEntries, metrics, countEvictions, Metrics.add, Metrics.get,
    Metrics.setEntries]

variable {p : Pipeline σ} {flow : Flow} {moment : Moment}

lemma get_requestEvents (hschema : p.schema = .enriched) (hpos : 0 < p.cache.ttl)
    (hfresh : p.cache.AllFresh moment.stamp) (c : Counter) :
    (p.requestEvents flow moment).2.2.metrics.get c = p.metrics.get c := by
  simp only [requestEvents, hschema, (hfresh.store hpos _ _).1]
  exact get_touched p _ c

lemma get_responseEvents (hschema : p.schema = .enriched) {response : Http.Response}
    (hr : flow.response = some response) (hfound : (p.cache.get? flow.id).isSome) (c : Counter) :
    (p.responseEvents flow moment).2.2.metrics.get c = p.metrics.get c := by
  obtain ⟨request, hrequest⟩ := Option.isSome_iff_exists.mp hfound
  simp only [responseEvents, hr, hschema, Correlation.take, hrequest]
  exact get_touched p _ c

lemma get_sweep {now : Nat} (hfresh : p.cache.AllFresh now) (c : Counter) :
    (p.sweep now).2.metrics.get c = p.metrics.get c := by
  have hsweep : (p.sweep now).2 = p.touched (p.cache.sweep now).2 (p.cache.sweep now).1 := rfl
  rw [hsweep, hfresh.sweep.1]
  exact get_touched p _ c

end Pipeline

namespace Parties

/-! ### Captures -/

section

variable (s : Parties σ) (side : Direction) (host : Host) (flow : Flow) (moment : Moment)

/-- The events that a capture makes. -/
def eventsOf : List Event := (s.report side flow moment).events s.pipeline.schema

lemma workers_capture : (s.capture side host flow moment).workers.Perm
    ((Producer.ofEvents? s.born host.way (s.eventsOf side flow moment)).toList ++ s.workers) := by
  rw [capture_eq]
  exact workers_join _ _ _

lemma accepted_capture : (s.capture side host flow moment).accepted = s.accepted := by
  rw [capture_eq, accepted_join, accepted_note (isAside_reports s side flow moment)]

lemma refused_capture : (s.capture side host flow moment).refused = s.refused := by
  rw [capture_eq, refused_join, refused_note (isAside_reports s side flow moment)]

lemma made_capture : (s.capture side host flow moment).made =
    s.made ++ s.eventsOf side flow moment := by
  have hsweeps : (s.sweepReports side flow moment).flatMap (Report.events s.pipeline.schema) =
      [] := by
    cases side with
    | request =>
      simp only [sweepReports]
      split <;> rfl
    | response => rfl
  have hschema := (Alike.eventsOf s.pipeline side flow moment).schema
  rw [capture_eq]
  simp [made, join, note, hschema, hsweeps, eventsOf, Report.events]

lemma alike_capture : Alike s.pipeline (s.capture side host flow moment).pipeline :=
  Alike.eventsOf s.pipeline side flow moment

end

lemma made_sweep (s : Parties σ) (now : Nat) : (s.sweep now).made = s.made := by
  simp [made, sweep, note, (Alike.sweep s.pipeline now).schema, Report.events]

/-! ### Steps -/

/-- Nothing has gone wrong. -/
structure Smooth (t : Transport σ) (s : Parties (σ × List Call)) : Prop where
  accounts : Accounts t s
  ordered : Ordered s
  present : s.queue.orphaned = false
  room : 0 < s.queue.capacity
  eager : Queue.Eager s.queue
  policy : s.queue.policy = .block
  ways : ∀ p ∈ s.workers, p.way = .task ∨ p.way = .blocking .thread
  /-- The queue is open as long as there are producers. -/
  quits : s.queue.closed = true → s.workers = []
  refused : s.refused = []
  reliable : s.pipeline.worker ≠ .stopped → t.Reliable s.pipeline.delivery.connection.1
  calls : s.calls = s.handed.map (.publish · .ok) ++
    if s.pipeline.worker = .stopped then [.close] else []
  steady : ∀ c : Counter, c = .evictions ∨ c = .misses → s.pipeline.metrics.get c = 0

variable {t : Transport σ} {s s' : Parties (σ × List Call)}

lemma Smooth.new {t : Transport σ} {connection : σ} (hreliable : t.Reliable connection)
    (settings : Settings) {capacity : Nat} (hcapacity : 0 < capacity) :
    Smooth t (new (Pipeline.new t.traced settings (connection, [])
      (Queue.new capacity .block))) where
  accounts := .new t connection settings capacity .block
  ordered := .new _
  present := rfl
  room := hcapacity
  eager _ _ _ hw := absurd hw List.not_mem_nil
  policy := rfl
  ways _ hp := absurd hp List.not_mem_nil
  quits _ := rfl
  refused := rfl
  reliable _ := hreliable
  calls := rfl
  steady c _ := Metrics.get_zero c

/-- A producer that may wait at an open queue that blocks is not refused. -/
lemma Smooth.permits (h : Smooth t s) {p : Producer} (hp : p ∈ s.workers)
    {r : Except Queue.SendError Unit} (hr : s.queue.Permits p.way r) : r = .ok () := by
  cases r with
  | ok => rfl
  | error e =>
    have hway := h.ways p hp
    cases e with
    | closed =>
      have hnil := h.quits hr
      simp [hnil] at hp
    | full =>
      rcases hr with hpolicy | hattempt
      · simp [h.policy] at hpolicy
      · simp [hattempt] at hway
    | cannotBlock => simp [hr.2] at hway

/-- A delivery is a publication that succeeds. -/
lemma Smooth.delivered (h : Smooth t s) {e : Event} (he : s.held = some e) :
    t.Reliable (Delivery.deliver s.pipeline.transport e s.pipeline.delivery).2.2.connection.1 ∧
      (Delivery.deliver s.pipeline.transport e s.pipeline.delivery).2.2.connection.2 =
        s.calls ++ [.publish e.payload .ok] ∧
      (Delivery.deliver s.pipeline.transport e s.pipeline.delivery).2.2.metrics =
        s.pipeline.metrics.count .published := by
  have hrunning := h.accounts.conveyed.busy (by simp [he])
  rw [h.accounts.conveyed.transport]
  exact Delivery.deliver_reliable (h.reliable (by simp [hrunning])) e

/-- As long as the worker has not stopped, publications will succeed. -/
lemma Smooth.reliable_turned (h : Smooth t s) (hturned : Turned s s')
    (hgoes : s'.pipeline.worker ≠ .stopped) :
    t.Reliable s'.pipeline.delivery.connection.1 := by
  cases hturned with
  | nothing | cancels | receives | closes | parks => exact h.reliable hgoes
  | enters | refused | resumes | fails => simpa using h.reliable (by simpa using hgoes)
  | wakes hidle => exact h.reliable (by simp [hidle])
  | stops => exact absurd rfl hgoes
  | delivers e he => exact (h.delivered he).1

/-- Only the worker calls the transport. -/
lemma Smooth.calls_turned (h : Smooth t s) (hturned : Turned s s') :
    s'.calls = s'.handed.map (.publish · .ok) ++
      if s'.pipeline.worker = .stopped then [.close] else [] := by
  have hconveyed := h.accounts.conveyed
  have hcalls := h.calls
  cases hturned with
  | nothing | cancels | receives | closes | parks => exact hcalls
  | enters | refused | resumes | fails => simpa [handed] using hcalls
  | wakes hidle => simpa [handed, hidle] using hcalls
  | stops hc =>
    have hcalls' : s.stop.calls = s.calls ++ [.close] := by
      simp [stop, Delivery.stop, hconveyed.transport, traced]
    have hhanded : s.stop.handed = s.handed := by
      rw [handed, hcalls', List.filterMap_append, handed]
      exact List.append_nil _
    rw [hcalls', hhanded, hcalls]
    simp [stop, hc.1]
  | delivers e he =>
    have hrunning := hconveyed.busy (by simp [he])
    obtain ⟨-, hnew, -⟩ := h.delivered he
    rw [if_neg (by simp [hrunning]), List.append_nil] at hcalls ⊢
    have hall : ∀ l, l = s.calls ++ [.publish e.payload .ok] →
        l = (l.filterMap Call.payload?).map (.publish · .ok) := by
      rintro l rfl
      rw [List.filterMap_append, List.map_append, ← handed, ← hcalls]
      rfl
    exact hall _ hnew

/-- Neither a send nor a delivery counts an eviction or a miss. -/
lemma Smooth.steady_turned (h : Smooth t s) (hturned : Turned s s') {c : Counter}
    (hc : c = .evictions ∨ c = .misses) :
    s'.pipeline.metrics.get c = s.pipeline.metrics.get c := by
  cases hturned with
  | nothing | cancels | wakes | receives | stops | closes | parks => rfl
  | enters | refused | resumes | fails =>
    rcases hc with rfl | rfl <;> simp [metrics, Metrics.get_count, offerCounter]
  | delivers e he =>
    obtain ⟨-, -, hmetrics⟩ := h.delivered he
    rcases hc with rfl | rfl <;> simp [metrics, hmetrics, Metrics.get_count]

/-- No step makes an event. -/
lemma made_turned {s s' : Parties σ} (h : Turned s s') : s'.made = s.made := by
  have hschema := h.cache_eq.1
  cases Worked.of_turned h with
  | rests _ hhistory => rw [made, hhistory, hschema, made]
  | sends p others r _ _ hhistory => simp [made, hhistory, hschema, Report.events]

/-- The producers go on in order, whatever step is taken, and no event of theirs is refused. -/
lemma Smooth.worked (h : Smooth t s) (hturned : Turned s s') :
    Ordered s' ∧ (∀ p ∈ s'.workers, p.way = .task ∨ p.way = .blocking .thread) ∧
      s'.refused = [] := by
  have hmade := made_turned hturned
  cases Worked.of_turned hturned with
  | rests hworkers hhistory =>
    refine ⟨h.ordered.rests hworkers ?_ hmade, ?_, ?_⟩
    · rw [accepted, hhistory, accepted]
    · intro p hp
      exact h.ways p (hworkers.mem_iff.mp hp)
    · rw [Parties.refused, hhistory]
      exact h.refused
  | sends p others r hbefore hafter hhistory hpermits =>
    have hp : p ∈ s.workers := hbefore.mem_iff.mpr List.mem_cons_self
    obtain rfl := h.permits hp hpermits
    refine ⟨h.ordered.sends hbefore hafter ?_ hmade, ?_, ?_⟩
    · simp [accepted, hhistory, Report.accepted?]
    · intro q hq
      rcases List.mem_append.mp (hafter.mem_iff.mp hq) with hrest | hq
      · obtain ⟨-, -, hway, -⟩ := flow?_of_rest? (Option.mem_toList.mp hrest)
          (h.ordered.uniform p hp)
        rw [hway]
        exact h.ways p hp
      · exact h.ways q (hbefore.mem_iff.mpr (List.mem_cons_of_mem _ hq))
    · simpa [Parties.refused, hhistory, Report.refused?] using h.refused

lemma orphaned_turned {s s' : Parties σ} (h : Turned s s') :
    s'.queue.orphaned = s.queue.orphaned ∧ s'.queue.capacity = s.queue.capacity := by
  cases h <;> simp [Queue.push, Queue.close, cancel, stop]

lemma eager_turned {s s' : Parties σ} (h : Queue.Eager s.queue) (hturned : Turned s s') :
    Queue.Eager s'.queue := by
  cases hturned with
  | nothing | cancels | wakes | stops | delivers => exact h
  | refused => simpa using h
  | enters i p hp hopen hfree =>
    intro _ _ w hw
    exact h hopen hfree w (by simpa [Queue.push] using hw)
  | parks i p hp hopen hfree =>
    intro _ hne
    exact absurd hfree (by simpa using hne)
  | resumes i p w hp hw hopen =>
    intro _ hfree v hv
    have hmem : v ∈ s.queue.waiting.eraseIdx i := by simpa using hv
    exact h hopen (by simpa using hfree) v (List.mem_of_mem_eraseIdx hmem)
  | fails i p w hp hw hclosed =>
    intro hopen
    simp [hclosed] at hopen
  | receives e items hc hitems =>
    have hrest : Queue.Eager { s.queue with items } := h
    exact hrest.release
  | closes =>
    intro hopen
    cases hopen

lemma Smooth.turned (h : Smooth t s) (hturned : Turned s s')
    (hquits : s'.queue.closed = true → s'.workers = []) : Smooth t s' := by
  have hconveyed := h.accounts.conveyed
  obtain ⟨hordered, hways, hrefused⟩ := h.worked hturned
  exact
    { accounts := ⟨hconveyed.turned hturned,
        h.accounts.counted.turned hconveyed.transport hturned,
        balanced_turned h.accounts.balanced hturned, h.accounts.shared.turned hturned⟩
      ordered := hordered
      present := (orphaned_turned hturned).1.trans h.present
      room := by rw [(orphaned_turned hturned).2]; exact h.room
      eager := eager_turned h.eager hturned
      policy := hturned.born_eq.2.1.trans h.policy
      ways := hways
      quits := hquits
      refused := hrefused
      reliable := h.reliable_turned hturned
      calls := h.calls_turned hturned
      steady := fun c hc => (h.steady_turned hturned hc).trans (h.steady c hc) }

lemma act_capture (h : s.queue.orphaned = false) (side : Direction) (host : Host) (flow : Flow)
    (moment : Moment) :
    s.act (.capture side host flow moment) = s.capture side host flow moment := by
  simp [act, h]

/-- A capture brings a producer that may wait, for a flow that no producer works for. -/
lemma Smooth.capture (h : Smooth t s) {side : Direction} {host : Host} {flow : Flow}
    {moment : Moment} (hhost : host ≠ .loop) (hopen : s.queue.closed = false) {e : Event}
    {es : List Event} (hevents : s.eventsOf side flow moment = e :: es)
    (huniform : ∀ f ∈ e :: es, f.flowId? = e.flowId?) (hfree : e.flowId? ∉ s.served)
    (hsteady : ∀ c, (s.pipeline.eventsOf side flow moment).2.2.metrics.get c =
      s.pipeline.metrics.get c) :
    Smooth t (s.capture side host flow moment) := by
  have halike := alike_capture s side host flow moment
  have hworkers : (s.capture side host flow moment).workers.Perm
      (⟨s.born, host.way, e, es⟩ :: s.workers) := by
    have hall := workers_capture s side host flow moment
    rwa [hevents] at hall
  have hcalls : (s.capture side host flow moment).calls = s.calls :=
    congrArg Prod.snd halike.connection
  refine
    { accounts := ?accounts
      ordered := h.ordered.comes hworkers (accepted_capture s side host flow moment) ?made
        huniform hfree
      present := (congrArg Queue.orphaned halike.queue).trans h.present
      room := by rw [queue, halike.queue]; exact h.room
      eager := by rw [queue, halike.queue]; exact h.eager
      policy := (congrArg Queue.policy halike.queue).trans h.policy
      ways := ?ways
      quits := ?quits
      refused := (refused_capture s side host flow moment).trans h.refused
      reliable := ?reliable
      calls := ?calls
      steady := fun c hc => (hsteady c).trans (h.steady c hc) }
  case accounts =>
    have hact := h.accounts.perform [.capture side host flow moment]
    rwa [perform, List.foldl_cons, List.foldl_nil, act_capture h.present] at hact
  case made =>
    rw [made_capture, hevents]
    rfl
  case ways =>
    intro p hp
    rcases List.mem_cons.mp (hworkers.mem_iff.mp hp) with rfl | hp
    · cases host with
      | task => exact .inl rfl
      | thread => exact .inr rfl
      | loop => exact absurd rfl hhost
    · exact h.ways p hp
  case quits =>
    intro hclosed
    rw [queue, halike.queue, hopen] at hclosed
    cases hclosed
  case reliable =>
    rw [halike.worker, halike.connection]
    exact h.reliable
  case calls =>
    rw [handed, hcalls, halike.worker]
    exact h.calls

lemma Smooth.sweep (h : Smooth t s) {now : Nat} (hfresh : s.pipeline.cache.AllFresh now) :
    Smooth t (s.sweep now) := by
  have halike := Alike.sweep s.pipeline now
  have haside : ∀ r ∈ [Report.swept now], r.isAside = true := by simp [Report.isAside]
  have hcalls : (s.sweep now).calls = s.calls := congrArg Prod.snd halike.connection
  refine
    { accounts := h.accounts.perform [.sweep now]
      ordered := h.ordered.rests (.refl _) (accepted_note haside) (made_sweep s now)
      present := (congrArg Queue.orphaned halike.queue).trans h.present
      room := h.room
      eager := h.eager
      policy := (congrArg Queue.policy halike.queue).trans h.policy
      ways := h.ways
      quits := fun hclosed => h.quits ((congrArg Queue.closed halike.queue).symm.trans hclosed)
      refused := (refused_note haside).trans h.refused
      reliable := h.reliable
      calls := ?_
      steady := fun c hc => (get_sweep hfresh c).trans (h.steady c hc) }
  rw [handed, hcalls]
  exact h.calls

end Parties

end TrafficFeed
