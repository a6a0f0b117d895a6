import Mathlib.Data.List.InsertIdx
import TrafficFeed.Proofs.Parties.Step
import TrafficFeed.Transport.Script

/-!
# From the queue to the transport

Whatever the parties do and in whichever order, what has entered the queue is what has been handed
to the transport, then the event that the worker holds, then what is still in the queue. Once the
worker has stopped nothing is held, nothing is in the queue and nothing enters it, so that all that
ever entered has been handed over, and the connection has been closed after the last publication.
-/

namespace TrafficFeed.Parties

open TrafficFeed.Transport

variable {σ : Type}

/-! ### What enters -/

@[simp] lemma accepted_record_ok (s : Parties σ) (p : Producer) :
    (s.record p (.ok ())).accepted = s.accepted ++ [p.next] := by
  simp [accepted, Report.accepted?]

@[simp] lemma accepted_record_error (s : Parties σ) (p : Producer) (e : Queue.SendError) :
    (s.record p (.error e)).accepted = s.accepted := by
  simp [accepted, Report.accepted?]

@[simp] lemma accepted_join (s : Parties σ) (way : Queue.Way) (events : List Event) :
    (s.join way events).accepted = s.accepted := by
  simp [join, accepted, Report.accepted?]

@[simp] lemma refused_record_ok (s : Parties σ) (p : Producer) :
    (s.record p (.ok ())).refused = s.refused := by
  simp [refused, Report.refused?]

@[simp] lemma refused_record_error (s : Parties σ) (p : Producer) (e : Queue.SendError) :
    (s.record p (.error e)).refused = s.refused ++ [p.next] := by
  simp [refused, Report.refused?]

@[simp] lemma refused_join (s : Parties σ) (way : Queue.Way) (events : List Event) :
    (s.join way events).refused = s.refused := by
  simp [join, refused, Report.refused?]

/-- Nothing enters a queue that is closed, and it stays closed. -/
lemma Turned.accepted_of_closed {s s' : Parties σ} (h : Turned s s')
    (hclosed : s.queue.closed = true) :
    s'.queue.closed = true ∧ s'.accepted = s.accepted := by
  cases h with
  | nothing | cancels | wakes | delivers | stops => exact ⟨hclosed, rfl⟩
  | closes => exact ⟨rfl, rfl⟩
  | enters i p hp hopen | parks i p hp hopen | resumes i p w hp hw hopen =>
    simp [hclosed] at hopen
  | refused | fails => exact ⟨by simpa using hclosed, accepted_record_error _ _ _⟩
  | receives => exact ⟨by simpa using hclosed, rfl⟩

/-- Nothing enters a queue after it has been closed. -/
lemma accepted_run_of_closed {s : Parties σ} (hclosed : s.queue.closed = true)
    (moves : List Move) :
    (s.run moves).queue.closed = true ∧ (s.run moves).accepted = s.accepted := by
  apply run_induction (P := fun s' => s'.queue.closed = true ∧ s'.accepted = s.accepted)
  · exact ⟨hclosed, rfl⟩
  · rintro s' way events ⟨hc, ha⟩ -
    exact ⟨hc, by rw [accepted_join, ha]⟩
  · rintro s' ⟨hc, ha⟩
    exact ⟨hc, ha⟩
  · rintro s' s'' ⟨hc, ha⟩ h
    obtain ⟨hc', ha'⟩ := h.accepted_of_closed hc
    exact ⟨hc', ha'.trans ha⟩

/-! ### The line at the queue -/

/-- The producers that wait are those whose events wait at the queue, in the same order; and no
producer is at work any more once they have left. -/
structure Lined (s : Parties σ) : Prop where
  items : s.queue.waiting.map (·.item) = s.parked.map (·.next)
  left : s.queue.orphaned = true → s.idle

lemma Lined.new {p : Pipeline σ} (h : p.queue.waiting = []) : Lined (new p) :=
  ⟨by simp [Parties.new, h], fun _ => ⟨rfl, rfl⟩⟩

lemma Lined.join {s : Parties σ} (h : Lined s) (hleft : s.queue.orphaned = false)
    (way : Queue.Way) (events : List Event) : Lined (s.join way events) :=
  ⟨h.items, fun ho => by simp [Parties.join, hleft] at ho⟩

lemma Lined.leave {s : Parties σ} : Lined s.leave :=
  ⟨rfl, fun _ => ⟨rfl, rfl⟩⟩

/-- A producer at work has not left. -/
lemma Lined.not_left_of_active {s : Parties σ} (h : Lined s) {i : Nat} {p : Producer}
    (hp : s.active[i]? = some p) : s.queue.orphaned = false := by
  by_contra ho
  simp [(h.left (by simpa using ho)).1] at hp

lemma Lined.not_left_of_parked {s : Parties σ} (h : Lined s) {i : Nat} {p : Producer}
    (hp : s.parked[i]? = some p) : s.queue.orphaned = false := by
  by_contra ho
  simp [(h.left (by simpa using ho)).2] at hp

/-- The event of a producer that waits is the one that waits at its place in the line. -/
lemma Lined.item_eq {s : Parties σ} (h : Lined s) {i : Nat} {p : Producer}
    {w : Queue.Waiter Event} (hp : s.parked[i]? = some p) (hw : s.queue.waiting[i]? = some w) :
    w.item = p.next := by
  have := congrArg (·[i]?) h.items
  simpa [hp, hw] using this

/-- Where no producer is at work, no send waits. -/
lemma Lined.waiting_eq_nil {s : Parties σ} (h : Lined s) (hidle : s.idle) :
    s.queue.waiting = [] := by
  have hline := h.items
  rw [hidle.2] at hline
  exact List.map_eq_nil_iff.mp hline

lemma Lined.turned {s s' : Parties σ} (h : Lined s) (ht : Turned s s') : Lined s' := by
  cases ht with
  | nothing | cancels | wakes | delivers | stops | closes => exact ⟨h.items, h.left⟩
  | enters i p hp | refused i p e hp =>
    refine ⟨by simpa [Queue.push] using h.items, fun ho => ?_⟩
    have hleft := h.not_left_of_active hp
    simp_all [Queue.push]
  | parks i p hp =>
    refine ⟨by simpa using h.items, fun ho => ?_⟩
    have hleft := h.not_left_of_active hp
    simp_all
  | resumes i p w hp | fails i p w hp =>
    refine ⟨?_, fun ho => ?_⟩
    · have := h.items
      simp only [queue, pipeline_record, Pipeline.queue_mapMetrics, pipeline_withQueue,
        parked_record, parked_withQueue] at this ⊢
      rw [← List.eraseIdx_map, ← List.eraseIdx_map, this]
    · have hleft := h.not_left_of_parked hp
      simp_all
  | receives e items hc hitems =>
    refine ⟨by simpa using h.items, fun ho => ?_⟩
    exact h.left (by simpa using ho)

/-! ### Where the events are -/

/-- The worker has come to its end: nothing will enter the queue, nothing is left in it, and the
last call was the one that closed the connection. -/
structure Finished (s : Parties (σ × List Call)) : Prop where
  ended : s.queue.closed = true ∨ s.queue.orphaned = true
  items : s.queue.items = []
  calls : ∃ before, s.calls = before ++ [.close] ∧ .close ∉ before

/-- The events that have entered the queue have been handed over, or the worker holds them, or they
are in the queue, in this order. -/
structure Conveyed (t : Transport σ) (s : Parties (σ × List Call)) : Prop where
  transport : s.pipeline.transport = t.traced
  lined : Lined s
  path : ∃ given, s.accepted = given ++ s.held.toList ++ s.queue.items ∧
    s.handed = given.map Event.payload
  busy : s.held ≠ none → s.pipeline.worker = .running
  before : s.pipeline.worker ≠ .stopped → .close ∉ s.calls
  after : s.pipeline.worker = .stopped → s.Finished

variable {t : Transport σ} {s s' : Parties (σ × List Call)}

lemma Conveyed.new (t : Transport σ) (connection : σ) (settings : Settings) (capacity : Nat)
    (policy : Queue.Policy) :
    Conveyed t (new (Pipeline.new t.traced settings (connection, [])
      (Queue.new capacity policy))) where
  transport := rfl
  lined := .new rfl
  path := ⟨[], rfl, rfl⟩
  busy h := absurd rfl h
  before _ := List.not_mem_nil
  after h := by simp [Parties.new, Pipeline.new] at h

/-- What a producer does leaves the worker as it is. It may put events into the queue, if the queue
is open and has producers. -/
lemma Conveyed.extend (h : Conveyed t s) (hlined : Lined s') (es : List Event)
    (hes : es ≠ [] → s.queue.closed = false ∧ s.queue.orphaned = false)
    (htransport : s'.pipeline.transport = s.pipeline.transport) (hheld : s'.held = s.held)
    (hworker : s'.pipeline.worker = s.pipeline.worker) (hcalls : s'.calls = s.calls)
    (hclosed : s'.queue.closed = s.queue.closed)
    (horphaned : s'.queue.orphaned = s.queue.orphaned)
    (haccepted : s'.accepted = s.accepted ++ es) (hitems : s'.queue.items = s.queue.items ++ es) :
    Conveyed t s' := by
  refine ⟨htransport.trans h.transport, hlined, ?_, ?_, ?_, fun hstop => ?_⟩
  · obtain ⟨given, hpath, hhanded⟩ := h.path
    refine ⟨given, ?_, ?_⟩
    · rw [haccepted, hitems, hheld, hpath, List.append_assoc]
    · rw [handed, hcalls, ← hhanded, handed]
  · rw [hheld, hworker]
    exact h.busy
  · rw [hworker, hcalls]
    exact h.before
  · rw [hworker] at hstop
    obtain ⟨hover, hnil, hlast⟩ := h.after hstop
    -- the queue of a worker that has stopped takes no event
    have hno : es = [] := by
      by_contra hne
      have := hes hne
      simp_all
    exact ⟨by rw [hclosed, horphaned]; exact hover, by rw [hitems, hnil, hno]; rfl,
      by rw [hcalls]; exact hlast⟩

/-- A publication hands over the event that was held. -/
lemma Conveyed.deliver (h : Conveyed t s) {e : Event} (he : s.held = some e)
    (hlined : Lined s') (hs' : s' = { s with
      held := none
      pipeline := { s.pipeline with
        delivery := (Delivery.deliver s.pipeline.transport e s.pipeline.delivery).2.2 } }) :
    Conveyed t s' := by
  have hrun : s.pipeline.worker = .running := h.busy (by simp [he])
  obtain ⟨outcome, rest, hrest, hcalls, -⟩ := Delivery.calls_deliver t e s.pipeline.delivery
  rw [← h.transport] at hcalls
  have hno : rest.filterMap Call.payload? = [] := by
    rw [List.filterMap_eq_nil_iff]
    intro c hc
    obtain ⟨o, rfl⟩ := hrest c hc
    rfl
  subst hs'
  refine ⟨h.transport, hlined, ?_, fun hne => absurd rfl hne, fun _ hclose => ?_, fun hstop => ?_⟩
  · obtain ⟨given, hpath, hhanded⟩ := h.path
    refine ⟨given ++ [e], ?_, ?_⟩
    · simpa [he, accepted] using hpath
    · rw [handed, calls] at hhanded
      rw [handed, calls, hcalls, List.filterMap_append, hhanded, List.filterMap_cons, hno]
      simp [Call.payload?]
  · have hbefore : .close ∉ s.calls := h.before (by simp [hrun])
    rw [calls, hcalls, List.mem_append, List.mem_cons] at hclose
    rcases hclose with hclose | hclose | hclose
    · exact hbefore hclose
    · cases hclose
    · obtain ⟨o, ho⟩ := hrest _ hclose
      cases ho
  · simp [hrun] at hstop

lemma Conveyed.turned (h : Conveyed t s) (ht : Turned s s') : Conveyed t s' := by
  have hlined := h.lined.turned ht
  cases ht with
  | nothing => exact h
  | cancels =>
    refine ⟨h.transport, hlined, h.path, h.busy, h.before, fun hstop => ?_⟩
    exact ⟨(h.after hstop).ended, (h.after hstop).items, (h.after hstop).calls⟩
  | enters i p hp hopen =>
    have hleft := h.lined.not_left_of_active hp
    exact h.extend hlined [p.next] (fun _ => ⟨hopen, hleft⟩) rfl rfl (by simp) (by simp)
      (by simp [Queue.push]) (by simp [Queue.push]) (accepted_record_ok _ _)
      (by simp [Queue.push])
  | refused | fails =>
    exact h.extend hlined [] (fun hne => absurd rfl hne) (by simp) (by simp) (by simp) (by simp)
      (by simp) (by simp) (by rw [accepted_record_error]; simp [accepted]) (by simp)
  | parks =>
    exact h.extend hlined [] (fun hne => absurd rfl hne) rfl rfl (by simp) (by simp) (by simp)
      (by simp) (by simp [accepted]) (by simp)
  | resumes i p w hp hw hopen =>
    have hleft := h.lined.not_left_of_parked hp
    have hitem := h.lined.item_eq hp hw
    exact h.extend hlined [p.next] (fun _ => ⟨hopen, hleft⟩) rfl rfl (by simp) (by simp)
      (by simp) (by simp) (accepted_record_ok _ _) (by simp [hitem])
  | wakes hidle =>
    refine ⟨h.transport, hlined, h.path, fun _ => rfl, fun _ => h.before (by simp [hidle]), ?_⟩
    exact fun hstop => by simp at hstop
  | receives e items hc hitems =>
    obtain ⟨given, hpath, hhanded⟩ := h.path
    refine ⟨h.transport, hlined, ⟨given, ?_, hhanded⟩, fun _ => hc.1,
      fun _ => h.before (by simp [hc.1]), fun hstop => ?_⟩
    · simpa [hc.2, hitems, accepted] using hpath
    · simp [hc.1] at hstop
  | stops hc hitems hover =>
    refine ⟨h.transport, hlined, ?_, fun hne => absurd hc.2 hne, fun hne => absurd rfl hne,
      fun _ => ⟨?_, hitems, s.calls, ?_, h.before (by simp [hc.1])⟩⟩
    · obtain ⟨given, hpath, hhanded⟩ := h.path
      refine ⟨given, hpath, ?_⟩
      rw [← hhanded]
      simp [handed, stop, Delivery.stop, h.transport, traced, Call.payload?]
    · exact hover.elim .inr fun hclosed => .inl hclosed.1
    · simp [stop, Delivery.stop, h.transport, traced]
  | closes hc =>
    refine ⟨h.transport, hlined, h.path, h.busy, h.before, fun hstop => ?_⟩
    simp [hc.1] at hstop
  | delivers e he => exact h.deliver he hlined rfl

lemma Conveyed.join (h : Conveyed t s) (hleft : s.queue.orphaned = false) (way : Queue.Way)
    (events : List Event) : Conveyed t (s.join way events) :=
  h.extend (h.lined.join hleft way events) [] (fun hne => absurd rfl hne) rfl rfl rfl rfl
    rfl rfl (by simp) (by simp [Parties.join])

lemma Conveyed.leave (h : Conveyed t s) : Conveyed t s.leave := by
  refine ⟨h.transport, .leave, h.path, h.busy, h.before, fun hstop => ?_⟩
  exact ⟨.inr rfl, (h.after hstop).items, (h.after hstop).calls⟩

lemma Conveyed.run (h : Conveyed t s) (moves : List Move) : Conveyed t (s.run moves) := by
  apply run_induction (P := Conveyed t) h
  · exact fun s way events h hleft => h.join hleft way events
  · exact fun s h => h.leave
  · exact fun s s' h ht => h.turned ht

/-- A worker that has stopped holds nothing. -/
lemma Conveyed.held_of_stopped (h : Conveyed t s) (hstop : s.pipeline.worker = .stopped) :
    s.held = none := by
  by_contra hne
  have := h.busy hne
  simp [hstop] at this

/-- What has been handed to the transport is at every moment a beginning of what has entered the
queue, one publication for each event. Nothing enters once the worker has closed the queue. The
connection is closed when the worker stops and not before, after the last publication, and by then
all that has entered has been handed over. -/
theorem handed_run (t : Transport σ) (connection : σ) (settings : Settings) (capacity : Nat)
    (policy : Queue.Policy) (moves : List Move) :
    let s := (new (Pipeline.new t.traced settings (connection, [])
      (Queue.new capacity policy))).run moves
    s.handed <+: s.accepted.map Event.payload ∧
    (s.queue.closed = true → ∀ more, (s.run more).accepted = s.accepted) ∧
    (s.pipeline.worker ≠ .stopped → .close ∉ s.calls) ∧
    (s.pipeline.worker = .stopped →
      s.handed = s.accepted.map Event.payload ∧
      ∃ before, s.calls = before ++ [.close] ∧ .close ∉ before) := by
  intro s
  have h : Conveyed t s := (Conveyed.new t connection settings capacity policy).run moves
  obtain ⟨given, hpath, hhanded⟩ := h.path
  refine ⟨?_, fun hclosed more => (accepted_run_of_closed hclosed more).2, h.before,
    fun hstop => ?_⟩
  · rw [hhanded, hpath, List.map_append, List.map_append, List.append_assoc]
    exact List.prefix_append _ _
  · have hfin := h.after hstop
    refine ⟨?_, hfin.calls⟩
    rw [hhanded, hpath, h.held_of_stopped hstop, hfin.items]
    simp

/-- The queue is closed while a send already holds the slot that the first event has left. The
publication of that event breaks; the send fails and the worker stops. -/
theorem handed_run_of_close_before_resume :
    let event (content : String) : Event :=
      .plainRequest ⟨"request", "http", "h", "GET", "/", content⟩
    let moves : List Move :=
      [.join .task [event "a", event "b"], .turn (.offer 0), .turn .wake, .turn (.offer 0),
        .turn .receive, .turn .cancel, .turn .deliver, .turn .close, .turn (.resume 0),
        .turn .receive]
    let s := (new (Pipeline.new Script.transport.traced Settings.default
      (Script.new [.broken] [], []) (Queue.new 1 .block))).run moves
    s.pipeline.worker = .stopped ∧ s.accepted = [event "a"] ∧ s.refused = [event "b"] ∧
      s.handed = s.accepted.map Event.payload := by
  intro event moves s
  refine ⟨by decide +kernel, by decide +kernel, by decide +kernel, ?_⟩
  have h := handed_run Script.transport (Script.new [.broken] []) Settings.default 1 .block moves
  exact (h.2.2.2 (by decide +kernel)).1

end TrafficFeed.Parties
