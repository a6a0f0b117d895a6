import TrafficFeed.Proofs.Parties.Accounting
import TrafficFeed.Proofs.Parties.Sequential
import TrafficFeed.Proofs.Transport.Outcomes

/-!
# The worker alone

Where no producer is at work, only the worker and whoever asks for the end take turns. In whichever
order they do, the worker can always come to its end, and once it has, it has delivered what the
queue held when it began, one event after the other, and closed the connection.
-/

namespace TrafficFeed.Parties

open TrafficFeed.Transport

variable {σ : Type}

/-- The worker of a pipeline has not begun, nobody waits at the queue, and it holds these events. -/
structure Laden (es : List Event) (p : Pipeline σ) : Prop where
  worker : p.worker = .idle
  items : p.queue.items = es
  waiting : p.queue.waiting = []
  balanced : p.queue.Balanced

/-- The worker is on its way through the events `es`, or it has come to its end. -/
structure Underway (t : Transport σ) (es : List Event) (start : Delivery.State σ)
    (s : Parties σ) : Prop where
  transport : s.pipeline.transport = t
  idle : s.idle
  waiting : s.queue.waiting = []
  balanced : s.queue.Balanced
  busy : s.held ≠ none → s.pipeline.worker = .running
  path : s.pipeline.worker ≠ .stopped → ∃ given, es = given ++ s.held.toList ++ s.queue.items ∧
    s.pipeline.delivery = (Delivery.deliverAll t given start).2
  done : s.pipeline.worker = .stopped → s.pipeline.delivery = (Delivery.run t es start).2

variable {t : Transport σ} {es : List Event} {start : Delivery.State σ} {s s' : Parties σ}

lemma Underway.new {p : Pipeline σ} (h : Laden es p) :
    Underway p.transport es p.delivery (new p) where
  transport := rfl
  idle := ⟨rfl, rfl⟩
  waiting := h.waiting
  balanced := h.balanced
  busy hne := absurd rfl hne
  path _ := ⟨[], by simp [Parties.new, h.items], rfl⟩
  done hstop := by simp [Parties.new, h.worker] at hstop

lemma Underway.turned (h : Underway t es start s) (ht : Turned s s') :
    Underway t es start s' := by
  have hbalanced := balanced_turned h.balanced ht
  cases ht with
  | nothing => exact h
  | enters i p hp | refused i p e hp | parks i p hp => simp [h.idle.1] at hp
  | resumes i p w hp | fails i p w hp => simp [h.idle.2] at hp
  | cancels => exact ⟨h.transport, h.idle, h.waiting, hbalanced, h.busy, h.path, h.done⟩
  | wakes hidle =>
    refine ⟨h.transport, h.idle, h.waiting, hbalanced, fun _ => rfl, fun _ => ?_, fun hstop => ?_⟩
    · exact h.path (by simp [hidle])
    · cases hstop
  | receives e items hc hitems =>
    obtain ⟨given, hpath, hdelivery⟩ := h.path (by simp [hc.1])
    refine ⟨h.transport, h.idle, ?_, hbalanced, fun _ => hc.1, fun _ => ⟨given, ?_, hdelivery⟩,
      fun hstop => ?_⟩
    · have hline : ({ s.queue with items } : Queue Event).waiting = [] := h.waiting
      change (Queue.release { s.queue with items }).waiting = []
      rw [Queue.release_of_nil hline]
      exact hline
    · simpa [hc.2, hitems] using hpath
    · simp [hc.1] at hstop
  | stops hc hitems =>
    obtain ⟨given, hpath, hdelivery⟩ := h.path (by simp [hc.1])
    have hall : es = given := by simpa [hc.2, hitems] using hpath
    refine ⟨h.transport, h.idle, h.waiting, hbalanced, fun hne => absurd hc.2 hne,
      fun hne => absurd rfl hne, fun _ => ?_⟩
    simp only [stop, h.transport, hdelivery, hall]
    rfl
  | closes hc =>
    refine ⟨h.transport, h.idle, h.waiting, hbalanced, h.busy, fun _ => ?_, fun hstop => ?_⟩
    · exact h.path (by simp [hc.1])
    · simp [hc.1] at hstop
  | delivers e he =>
    have hrun : s.pipeline.worker = .running := h.busy (by simp [he])
    obtain ⟨given, hpath, hdelivery⟩ := h.path (by simp [hrun])
    refine ⟨h.transport, h.idle, h.waiting, hbalanced, fun hne => absurd rfl hne,
      fun _ => ⟨given ++ [e], ?_, ?_⟩, fun hstop => ?_⟩
    · simpa [he] using hpath
    · rw [Delivery.deliverAll_append, ← hdelivery, ← h.transport]
      rfl
    · simp [hrun] at hstop

lemma Underway.run (h : Underway t es start s) (turns : List Turn) :
    Underway t es start (s.run (turns.map .turn)) := by
  induction turns generalizing s with
  | nil => exact h
  | cons turn turns ih => exact ih (h.turned (.of_turn s turn))

/-! ### The end -/

/-- The worker can come to its end. -/
def CanStop (s : Parties σ) : Prop :=
  ∃ turns : List Turn, (s.run (turns.map .turn)).pipeline.worker = .stopped

lemma CanStop.of_turn (turn : Turn) (h : CanStop (s.turn turn)) : CanStop s := by
  obtain ⟨turns, hturns⟩ := h
  exact ⟨turn :: turns, hturns⟩

/-- After the queue has been closed the worker receives and delivers, one event after the other. -/
lemma Underway.canStop_of_closed (h : Underway t es start s) (hc : s.choosing)
    (hclosed : s.queue.closed = true) : CanStop s := by
  obtain ⟨items, hitems⟩ : ∃ items, s.queue.items = items := ⟨_, rfl⟩
  induction items generalizing s with
  | nil =>
    have hfree : s.queue.free = s.queue.capacity := by
      simpa [Queue.Balanced, hitems, h.waiting] using h.balanced
    have hreceive : s.queue.receive = (.finished, s.queue) := by
      simp [Queue.receive, hitems, hclosed, hfree]
    have hstop : s.receive = s.stop := by simp only [receive, if_pos hc, hreceive]
    refine ⟨[.receive], ?_⟩
    change s.receive.pipeline.worker = .stopped
    rw [hstop]
    rfl
  | cons e items ih =>
    have hreceive : s.queue.receive = (.item e, Queue.release { s.queue with items }) := by
      simp only [Queue.receive, hitems]
    have hboth : s.receive.deliver = { s with
        held := none
        pipeline := { s.pipeline with
          queue := Queue.release { s.queue with items }
          delivery := (Delivery.deliver s.pipeline.transport e s.pipeline.delivery).2.2 } } := by
      rw [receive_eq hc hreceive, deliver_eq rfl]
      rfl
    refine .of_turn .receive (.of_turn .deliver ?_)
    apply ih ((h.turned (.of_receive s)).turned (.of_deliver _))
    · rw [hboth]
      exact ⟨hc.1, rfl⟩
    · rw [hboth]
      exact (Queue.closed_release _).trans hclosed
    · rw [hboth]
      exact Queue.items_release _

/-- The worker has its choice once it has begun and delivered what it held. -/
lemma choosing_deliver_wake (h : s.pipeline.worker ≠ .stopped) : s.wake.deliver.choosing := by
  have hrun : s.wake.pipeline.worker = .running := by
    unfold wake Pipeline.wake
    cases hw : s.pipeline.worker with
    | idle => rfl
    | running => exact hw
    | stopped => exact absurd hw h
  unfold deliver
  cases hheld : s.wake.held with
  | none => exact ⟨hrun, hheld⟩
  | some e => exact ⟨hrun, rfl⟩

/-- From wherever the worker is, it can come to its end, once that is asked for. -/
lemma Underway.canStop (h : Underway t es start s) : CanStop s := by
  by_cases hstop : s.pipeline.worker = .stopped
  · exact ⟨[], hstop⟩
  · let ready := s.wake.deliver.cancel
    have hready : Underway t es start ready :=
      ((h.turned (.of_wake s)).turned (.of_deliver _)).turned .cancels
    have hchoosing : ready.choosing := choosing_deliver_wake hstop
    have hclose : ready.close = ready.withQueue ready.queue.close := if_pos ⟨hchoosing, rfl⟩
    refine .of_turn .wake (.of_turn .deliver (.of_turn .cancel (.of_turn .close ?_)))
    apply (hready.turned (.of_close ready)).canStop_of_closed
    · rw [hclose]
      exact hchoosing
    · rw [hclose]
      rfl

/-! ### The law of outcomes -/

/-- Whatever the order of their turns, the worker can be brought to its end, and by then it has
delivered what the queue held. -/
lemma delivery_of_stopped {p : Pipeline σ} (h : Laden es p) (turns : List Turn) :
    CanStop ((new p).run (turns.map .turn)) ∧
      (((new p).run (turns.map .turn)).pipeline.worker = .stopped →
        ((new p).run (turns.map .turn)).pipeline.delivery =
          (Delivery.run p.transport es p.delivery).2) :=
  ⟨((Underway.new h).run turns).canStop, ((Underway.new h).run turns).done⟩

/-- The worker of a queue that holds the events `es`, at a transport under two scripts. However its
turns and the request for the end follow one another, it can come to its end. By then it has
published each event once, in the order of the queue; those have got through whose publication
succeeded; an attempt at a new connection has followed each failure to send and each break, before
the next publication, and no other publication; and each publication and each attempt is counted by
its end. How the attempts end shows nowhere but in their own record. -/
theorem outcomes_run {p : Pipeline (Script × List Call)} {outcomes renewals : List Outcome}
    (h : Laden es p) (htransport : p.transport = Script.transport.traced)
    (hconnection : p.delivery.connection = (.new outcomes renewals, [])) (turns : List Turn) :
    let s := (new p).run (turns.map .turn)
    let ends := Script.ends outcomes es.length
    (∃ more, (s.run (List.map .turn more)).pipeline.worker = .stopped) ∧
    (s.pipeline.worker = .stopped →
      s.handed = es.map Event.payload ∧
      s.pipeline.delivery.connection.1.published.reverse =
        ((es.zip ends).filter (·.2 = .ok)).map (·.1.payload) ∧
      s.calls.map Call.blind = (es.zip ends).flatMap Call.attempts ++ [.close] ∧
      s.calls.filterMap Call.rebuildEnd? =
        Script.ends renewals (ends.countP Outcome.breaks) ∧
      s.pipeline.metrics = { p.metrics with
        published := p.metrics.published + UInt64.ofNat (ends.count .ok)
        failures := p.metrics.failures + UInt64.ofNat (ends.countP (· ≠ .ok))
        rebuilds := p.metrics.rebuilds + UInt64.ofNat (ends.countP Outcome.breaks) }) := by
  intro s ends
  obtain ⟨hcan, hdone⟩ := delivery_of_stopped h turns
  refine ⟨hcan, fun hstop => ?_⟩
  have hstart : p.delivery = ⟨(.new outcomes renewals, []), p.metrics⟩ := by
    rw [← hconnection]
    rfl
  have hdelivery : s.pipeline.delivery = (Delivery.run Script.transport.traced es
      ⟨(.new outcomes renewals, []), p.metrics⟩).2 := by
    rw [← htransport, ← hstart]
    exact hdone hstop
  have hlaw := Delivery.run_script outcomes renewals p.metrics es
  rw [← hdelivery] at hlaw
  exact hlaw

/-- A failure to send, a break, a failure to bind and a success. The first attempt at a new
connection breaks off and the second fails, and the end is asked for while an event is held. -/
theorem outcomes_run_of_failed_renewals :
    let event (content : String) : Event :=
      .plainRequest ⟨"request", "http", "h", "GET", "/", content⟩
    let es := [event "a", event "b", event "c", event "d"]
    let outcomes : List Outcome :=
      [.failed (.send "gone"), .broken, .failed (.bind "tcp://h:1" "taken")]
    let renewals : List Outcome := [.broken, .failed .closed]
    let p := { Pipeline.new Script.transport.traced Settings.default
      (.new outcomes renewals, []) (Queue.new 5 .block) with
        queue := { Queue.new 5 .block with free := 1, items := es } }
    let turns : List Turn :=
      [.wake, .receive, .cancel, .deliver, .receive, .deliver, .close, .receive, .deliver, .receive,
        .deliver, .receive]
    let s := (new p).run (turns.map .turn)
    Laden es p ∧ s.pipeline.worker = .stopped ∧ s.handed = es.map Event.payload ∧
      s.pipeline.delivery.connection.1.published.reverse = [(event "d").payload] ∧
      s.calls.filterMap Call.rebuildEnd? = renewals ∧
      s.pipeline.metrics = { Metrics.zero with published := 1, failures := 3, rebuilds := 2 } := by
  intro event es outcomes renewals p turns
  have hladen : Laden es p := ⟨rfl, rfl, rfl, rfl⟩
  have htransport : p.transport = Script.transport.traced := rfl
  have hconnection : p.delivery.connection = (Script.new outcomes renewals, []) := rfl
  have hstop : ((new p).run (turns.map .turn)).pipeline.worker = .stopped := by decide +kernel
  obtain ⟨hhanded, hpublished, -, hrenewed, hmetrics⟩ :=
    (outcomes_run hladen htransport hconnection turns).2 hstop
  exact ⟨hladen, hstop, hhanded, hpublished.trans (by decide +kernel),
    hrenewed.trans (by decide +kernel), hmetrics.trans (by decide +kernel)⟩

end TrafficFeed.Parties
