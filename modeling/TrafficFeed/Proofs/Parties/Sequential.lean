import TrafficFeed.Proofs.Parties.Operations

/-!
# One after the other

Where each operation of a pipeline runs to its end before the next begins, the parties take their
steps in one particular order. Each operation of a pipeline is a run of the parties, and so is every
sequence of them: what holds of all runs holds of the pipeline.
-/

namespace TrafficFeed

open TrafficFeed.Pipeline

variable {σ : Type}

namespace Parties

/-! ### From one state to another -/

/-- A run leads from one state to another. -/
def Reaches (s s' : Parties σ) : Prop := ∃ actions, s.perform actions = s'

lemma Reaches.refl (s : Parties σ) : Reaches s s := ⟨[], rfl⟩

lemma Reaches.trans {s s' s'' : Parties σ} (h : Reaches s s') (h' : Reaches s' s'') :
    Reaches s s'' := by
  obtain ⟨actions, rfl⟩ := h
  obtain ⟨more, rfl⟩ := h'
  exact ⟨actions ++ more, perform_append s actions more⟩

lemma Reaches.act (s : Parties σ) (a : Action) : Reaches s (s.act a) := ⟨[a], rfl⟩

lemma Reaches.turn (s : Parties σ) (t : Turn) : Reaches s (s.turn t) := .act s (.turn t)

variable {s : Parties σ}

lemma offer_eq {i : Nat} {p : Producer} {sent : Queue.Sent} {q : Queue Event}
    (hp : s.active[i]? = some p) (he : s.queue.enter p.way p.next = (sent, q)) :
    s.offer i = ({ s with active := s.active.eraseIdx i }.withQueue q).conclude p sent := by
  simp only [offer, hp, he]

lemma receive_eq {e : Event} {q : Queue Event} (hc : s.choosing)
    (he : s.queue.receive = (.item e, q)) :
    s.receive = { s.withQueue q with held := some e } := by
  simp only [receive, if_pos hc, he]

lemma deliver_eq {e : Event} (he : s.held = some e) :
    s.deliver = { s with
      held := none
      pipeline := { s.pipeline with
        delivery := (Delivery.deliver s.pipeline.transport e s.pipeline.delivery).2.2 } } := by
  simp only [deliver, he]

/-- The parties are at a pipeline, and none is in the middle of anything. -/
structure At (p : Pipeline σ) (s : Parties σ) : Prop where
  pipeline : s.pipeline = p
  idle : s.idle
  held : s.held = none

/-- The parties can go on from one pipeline to another. -/
def Leads (p p' : Pipeline σ) : Prop := ∀ s, At p s → ∃ s', Reaches s s' ∧ At p' s'

lemma Leads.refl (p : Pipeline σ) : Leads p p := fun s h => ⟨s, .refl s, h⟩

lemma Leads.trans {p p' p'' : Pipeline σ} (h : Leads p p') (h' : Leads p' p'') : Leads p p'' := by
  intro s hs
  obtain ⟨s', hreach, hs'⟩ := h s hs
  obtain ⟨s'', hreach', hs''⟩ := h' s' hs'
  exact ⟨s'', hreach.trans hreach', hs''⟩

variable {p : Pipeline σ}

/-! ### The worker -/

lemma leads_wake (p : Pipeline σ) : Leads p p.wake.2 := by
  intro s hs
  refine ⟨s.wake, .turn s .wake, ?_, hs.idle, hs.held⟩
  rw [← hs.pipeline]
  rfl

/-- The worker receives an event and delivers it. -/
lemma leads_deliver (hrun : p.worker = .running) {e : Event} {q : Queue Event}
    (he : p.queue.receive = (.item e, q)) :
    Leads p { p with
      queue := q
      delivery := (Delivery.deliver p.transport e p.delivery).2.2 } := by
  rintro s ⟨rfl, hidle, hheld⟩
  refine ⟨s.receive.deliver, (Reaches.turn s .receive).trans (.turn _ .deliver), ?_⟩
  rw [receive_eq ⟨hrun, hheld⟩ he, deliver_eq rfl]
  exact ⟨rfl, hidle, rfl⟩

/-- The worker delivers all that the queue holds. -/
lemma leads_drain (hrun : p.worker = .running) :
    Leads p { p with
      queue := p.queue.drain.2
      delivery := (Delivery.deliverAll p.transport p.queue.drain.1 p.delivery).2 } := by
  -- by induction on the items, since the queue and the connection change with each of them
  have hdrain : ∀ items (p : Pipeline σ), p.queue.items = items → p.worker = .running →
      Leads p { p with
        queue := items.foldl (fun q _ => q.receive.2) p.queue
        delivery := (Delivery.deliverAll p.transport items p.delivery).2 } := by
    intro items
    induction items with
    | nil => exact fun p _ _ => .refl p
    | cons e items ih =>
      intro p hitems hrun
      have hreceive : p.queue.receive = (.item e, Queue.release { p.queue with items }) := by
        simp only [Queue.receive, hitems]
      have hrest : p.queue.receive.2.items = items := by
        rw [hreceive]
        exact Queue.items_release _
      refine (leads_deliver hrun hreceive).trans ?_
      rw [hreceive] at hrest
      have hnext := ih { p with
        queue := Queue.release { p.queue with items }
        delivery := (Delivery.deliver p.transport e p.delivery).2.2 } hrest hrun
      simpa only [List.foldl_cons, hreceive, Delivery.deliverAll] using hnext
  exact hdrain _ p rfl hrun

/-- The worker stops when it has delivered all and no event will come any more. -/
lemma leads_stop (hrun : p.worker = .running) (hover : p.isOver = true)
    (hitems : p.queue.items = []) (hfree : p.queue.free = p.queue.capacity) :
    Leads p { p with
      delivery := (Delivery.stop p.transport p.delivery).2
      worker := .stopped } := by
  rintro s ⟨rfl, hidle, hheld⟩
  refine ⟨s.receive, .turn s .receive, ?_⟩
  have hreceive : s.queue.receive = (.finished, s.queue) := by
    simp only [Queue.receive, hitems]
    simp_all [isOver, or_comm]
  have hstop : s.receive = s.stop := by
    simp only [receive, if_pos (show s.choosing from ⟨hrun, hheld⟩), hreceive]
  rw [hstop]
  exact ⟨rfl, hidle, hheld⟩

lemma leads_settle (h : Settled p) : Leads p p.settle.2 := by
  by_cases hstop : p.worker = .stopped
  · rw [settle_of_stopped hstop]
    exact .refl p
  · have hwake := leads_wake p
    rw [wake_of_not_stopped hstop] at hwake
    have hdrain := leads_drain (p := { p with worker := .running }) rfl
    rw [settle_of_not_stopped hstop]
    refine hwake.trans (hdrain.trans ?_)
    dsimp only
    split
    · next hover =>
      have hbalanced := h.balanced
      refine leads_stop rfl hover ?_ ?_
      · rw [Queue.drain_of_nil h.waiting]
      · rw [Queue.drain_of_nil h.waiting]
        simp only [Queue.Balanced, h.waiting, Queue.heldSlots_nil] at hbalanced
        exact hbalanced
    · exact .refl _

/-! ### Captures -/

/-- A producer sends its events, and no other party is in the middle of anything. -/
structure Sending (p : Pipeline σ) (host : Host) (events : List Event) (s : Parties σ) : Prop where
  pipeline : s.pipeline = p
  active : ∃ n, s.active = (Producer.ofEvents? n host.way events).toList
  parked : s.parked = []
  held : s.held = none

variable {host : Host} {e : Event} {es : List Event}

lemma conclude_ofExcept (s : Parties σ) (p : Producer) (r : Except Queue.SendError Unit) :
    s.conclude p (.ofExcept r) = s.record p r := by
  cases r <;> rfl

/-- A send that ends at once. -/
lemma Sending.direct (hs : Sending p host (e :: es) s) {r : Except Queue.SendError Unit}
    {q : Queue Event} (henter : p.queue.enter host.way e = (.ofExcept r, q))
    (hoffer : p.offer host e = (r, [], { p with queue := q })) :
    ∃ s', Reaches s s' ∧ Sending (p.offered host e) host es s' := by
  obtain ⟨rfl, ⟨n, hactive⟩, hparked, hheld⟩ := hs
  have hp : s.active[0]? = some ⟨n, host.way, e, es⟩ := by
    rw [hactive]
    rfl
  have hrest : s.active.eraseIdx 0 = [] := by
    rw [hactive]
    rfl
  refine ⟨s.offer 0, .turn s (.offer 0), ?_⟩
  rw [offer_eq hp henter, conclude_ofExcept, Pipeline.offered, hoffer, hrest]
  exact ⟨rfl, ⟨n, rfl⟩, hparked, hheld⟩

/-- A send that is refused leaves the queue as it is. -/
lemma Sending.refused (h : Settled p) (hs : Sending p host (e :: es) s)
    (hleft : p.queue.orphaned = false) {error : Queue.SendError}
    (henter : p.queue.enter host.way e = (.ofExcept (.error error), p.queue))
    (hoffer : p.offer host e = (.error error, [], { p with queue := p.queue })) :
    (∃ s', Reaches s s' ∧ Sending (p.offered host e) host es s') ∧
      Settled (p.offered host e) ∧ (p.offered host e).queue.orphaned = false := by
  refine ⟨hs.direct henter hoffer, ?_⟩
  rw [offered_of_offer hoffer]
  exact ⟨⟨h.waiting, h.balanced, h.capacity, h.ended⟩, hleft⟩

/-- A send that waits: the worker makes room by delivering the oldest event. -/
lemma Sending.wait (h : Settled p) (hs : Sending p host (e :: es) s)
    (hopen : p.queue.closed = false) (hleft : p.queue.orphaned = false)
    (hfree : p.queue.free = 0) (hpolicy : p.queue.policy = .block) (hhost : host ≠ .loop) :
    (∃ s', Reaches s s' ∧ Sending (p.offered host e) host es s') ∧
      Settled (p.offered host e) ∧ (p.offered host e).queue.orphaned = false := by
  obtain ⟨rfl, ⟨n, hactive⟩, hparked, hheld⟩ := hs
  obtain ⟨⟨transport, schema, ⟨capacity, policy, free, items, waiting, closed, orphaned⟩, cache,
    delivery, worker, interval, clock, next⟩, held, cancelled, active, parked, born, history⟩ := s
  obtain ⟨hwaiting, hbalanced, hcapacity, hover⟩ := h
  dsimp only at *
  subst hopen hleft hfree hpolicy hactive hparked hheld hwaiting
  have hworker : worker ≠ .stopped := fun hstop => by simpa [isOver] using hover hstop
  cases items with
  | nil =>
    simp only [Queue.Balanced, List.length_nil, Queue.heldSlots_nil] at hbalanced
    omega
  | cons oldest items =>
    have hbalanced' : 0 + (items ++ [e]).length + Queue.heldSlots ([] : List (Queue.Waiter Event)) =
        capacity := by
      simpa [Queue.Balanced] using hbalanced
    cases host with
    | loop => exact absurd rfl hhost
    | task | thread =>
      cases worker with
      | stopped => exact absurd rfl hworker
      | idle | running =>
        -- the slot of the oldest event goes to the send that waits, and its event takes it
        refine ⟨⟨_, ⟨[.turn (.offer 0), .turn .wake, .turn .receive, .turn .deliver,
          .turn (.resume 0)], rfl⟩, ⟨rfl, ⟨n, rfl⟩, rfl, rfl⟩⟩, ⟨rfl, hbalanced', hcapacity,
          fun hstop => by cases hstop⟩, rfl⟩

/-- A producer sends its next event. -/
lemma Sending.step (h : Settled p) (hs : Sending p host (e :: es) s)
    (hleft : p.queue.orphaned = false) :
    (∃ s', Reaches s s' ∧ Sending (p.offered host e) host es s') ∧
      Settled (p.offered host e) ∧ (p.offered host e).queue.orphaned = false := by
  cases hclosed : p.queue.closed with
  | true =>
    exact hs.refused h hleft (Queue.enter_of_closed hclosed _ _) (offer_of_closed hclosed host e)
  | false =>
    by_cases hfree : p.queue.free = 0
    · cases hpolicy : p.queue.policy with
      | dropNewest =>
        exact hs.refused h hleft (Queue.enter_of_dropNewest hclosed hfree hpolicy _ _)
          (offer_of_dropNewest hclosed hfree hpolicy host e)
      | block =>
        by_cases hhost : host = .loop
        · subst hhost
          exact hs.refused h hleft (Queue.enter_loop_of_full hclosed hfree hpolicy e)
            (offer_loop_of_full hclosed hfree hpolicy e)
        · exact hs.wait h hclosed hleft hfree hpolicy hhost
    · have hoffer := offer_of_free hclosed hfree host e
      have hentry : Queue.Entry p.queue host.way e .ok (p.queue.push e) := .enters hclosed hfree
      refine ⟨hs.direct (Queue.enter_of_free hclosed hfree _ _) hoffer, ?_⟩
      rw [offered_of_offer hoffer]
      exact ⟨⟨h.waiting, h.balanced.entry hentry, h.capacity, h.ended⟩, hleft⟩

/-- A producer sends all its events, and then it is gone. -/
lemma Sending.all {events : List Event} (h : Settled p) (hs : Sending p host events s)
    (hleft : p.queue.orphaned = false) :
    (∃ s', Reaches s s' ∧ At (enqueue host events p).2 s') ∧
      Settled (enqueue host events p).2 := by
  induction events generalizing p s with
  | nil =>
    obtain ⟨n, hactive⟩ := hs.active
    exact ⟨⟨s, .refl s, hs.pipeline, ⟨hactive, hs.parked⟩, hs.held⟩, h⟩
  | cons e es ih =>
    obtain ⟨⟨s', hreach, hs'⟩, h', hleft'⟩ := hs.step h hleft
    obtain ⟨⟨s'', hreach', hs''⟩, h''⟩ := ih h' hs' hleft'
    rw [enqueue_cons]
    exact ⟨⟨s'', hreach.trans hreach', hs''⟩, h''⟩

lemma leads_capture (h : Settled p) (hleft : p.queue.orphaned = false) (side : Direction)
    (host : Host) (flow : Flow) (moment : Moment) :
    Leads p (enqueue host (p.eventsOf side flow moment).1 (p.eventsOf side flow moment).2.2).2 ∧
      Settled (enqueue host (p.eventsOf side flow moment).1
        (p.eventsOf side flow moment).2.2).2 := by
  have halike := Alike.eventsOf p side flow moment
  have h' : Settled (p.eventsOf side flow moment).2.2 := by
    obtain ⟨hwaiting, hbalanced, hcapacity, hover⟩ := h
    rw [← halike.queue] at hwaiting hbalanced hcapacity
    refine ⟨hwaiting, hbalanced, hcapacity, fun hstop => ?_⟩
    rw [isOver, halike.queue]
    exact hover (halike.worker.symm.trans hstop)
  have hleft' : (p.eventsOf side flow moment).2.2.queue.orphaned = false := by
    rw [halike.queue]
    exact hleft
  have hsending : ∀ s, At p s → Sending (p.eventsOf side flow moment).2.2 host
      (p.eventsOf side flow moment).1 (s.capture side host flow moment) := by
    rintro s ⟨rfl, ⟨hactive, hparked⟩, hheld⟩
    refine ⟨rfl, ⟨s.born, ?_⟩, hparked, hheld⟩
    change s.active ++ _ = _
    rw [hactive]
    rfl
  refine ⟨fun s hs => ?_, ?_⟩
  · obtain ⟨⟨s', hreach, hs'⟩, -⟩ := (hsending s hs).all h' hleft'
    have hact : s.act (.capture side host flow moment) = s.capture side host flow moment := by
      have hs0 : s.queue.orphaned = false := by
        rw [queue, hs.pipeline]
        exact hleft
      simp [Parties.act, hs0]
    refine ⟨s', Reaches.trans ?_ hreach, hs'⟩
    rw [← hact]
    exact .act s _
  · have hat : At p (new p) := ⟨rfl, ⟨rfl, rfl⟩, rfl⟩
    exact ((hsending _ hat).all h' hleft').2

/-! ### Operations -/

lemma leads_sweep (p : Pipeline σ) (now : Nat) : Leads p (p.sweep now).2 := by
  rintro s ⟨rfl, hidle, hheld⟩
  exact ⟨s.sweep now, .act s (.sweep now), rfl, hidle, hheld⟩

/-- The worker closes the queue, once the end has been asked for. -/
lemma leads_close (hrun : p.worker = .running) : Leads p { p with queue := p.queue.close } := by
  rintro s ⟨rfl, hidle, hheld⟩
  refine ⟨s.cancel.close, (Reaches.turn s .cancel).trans (.turn _ .close), ?_⟩
  have hclose : s.cancel.close = s.cancel.withQueue s.queue.close := by
    rw [close, if_pos ⟨⟨hrun, hheld⟩, rfl⟩]
    rfl
  rw [hclose]
  exact ⟨rfl, hidle, hheld⟩

/-- What shuts down closes the queue and settles. A worker that has stopped has nothing left to do,
since the queue is closed already. -/
lemma leads_shutdown (h : Settled p) (hleft : p.queue.orphaned = false) :
    Leads p { p with queue := p.queue.close }.settle.2 ∧
      Settled { p with queue := p.queue.close }.settle.2 := by
  have h' : Settled { p with queue := p.queue.close } :=
    ⟨h.waiting, h.balanced, h.capacity, fun _ => rfl⟩
  refine ⟨?_, h'.settle⟩
  by_cases hstop : p.worker = .stopped
  · have hclosed : p.queue.closed = true := by simpa [isOver, hleft] using h.ended hstop
    have hsame : p.queue.close = p.queue := by rw [Queue.close, ← hclosed]
    rw [hsame, settle_of_stopped hstop]
    exact .refl p
  · have hwake := leads_wake p
    rw [wake_of_not_stopped hstop] at hwake
    have hclose := leads_close (p := { p with worker := .running }) rfl
    have hrunning : Settled { p with worker := .running, queue := p.queue.close } :=
      ⟨h.waiting, h.balanced, h.capacity, fun _ => rfl⟩
    have hsame : { p with worker := .running, queue := p.queue.close }.settle.2 =
        { p with queue := p.queue.close }.settle.2 := by
      rw [settle_of_not_stopped (p := { p with queue := p.queue.close }) hstop,
        settle_of_not_stopped (fun hs => by cases hs)]
    rw [← hsame]
    exact hwake.trans (hclose.trans (leads_settle hrunning))

/-- What is abandoned has no producer any more, and settles. -/
lemma leads_abandon (h : Settled p) : Leads p p.abandon.2 ∧ Settled p.abandon.2 := by
  have h' : Settled { p with queue := p.queue.orphan } :=
    ⟨rfl, h.balanced.orphan, h.capacity, fun _ => by simp [isOver, Queue.orphan]⟩
  refine ⟨.trans ?_ (leads_settle h'), h'.settle⟩
  rintro s ⟨rfl, hidle, hheld⟩
  refine ⟨s.leave, ?_, rfl, ⟨rfl, rfl⟩, hheld⟩
  have hact : s.act .leave = s.leave := if_pos hidle
  rw [← hact]
  exact .act s .leave

/-- Each possible operation is a run of the parties, whatever the clock reads. -/
lemma leads_operate (h : Settled p) {o : Operation} (hfits : p.fits o) (clock : Nat)
    (next : Option Nat) :
    Leads (p.timed clock next) ((p.operate o).timed clock next) ∧ Settled (p.operate o) := by
  have ht : Settled (p.timed clock next) := (settled_timed clock next).mpr h
  cases o with
  | capture side host flow moment =>
    obtain ⟨hevents, hpipeline⟩ := eventsOf_timed p clock next side flow moment
    have hleads := (leads_capture ht hfits side host flow moment).1
    rw [hevents, hpipeline, enqueue_timed] at hleads
    rw [operate_capture]
    exact ⟨hleads, (leads_capture h hfits side host flow moment).2⟩
  | settle =>
    refine ⟨?_, h.settle⟩
    have hleads := leads_settle ht
    rwa [settle_timed] at hleads
  | sweep now => exact ⟨leads_sweep _ now, h.sweep now⟩
  | advance elapsed now =>
    have hleads := leads_settle ht
    rw [settle_timed] at hleads
    rw [← settled_timed clock next]
    rcases advance_timed p clock next elapsed now with hadvance | hadvance
    · exact ⟨hadvance ▸ hleads, hadvance ▸ (settled_timed clock next).mpr h.settle⟩
    · have hsweep := leads_sweep (p.settle.2.timed clock next) now
      have hsettled := (settled_timed clock next).mpr h.settle
      exact ⟨hadvance ▸ hleads.trans hsweep, hadvance ▸ hsettled.sweep now⟩
  | shutdown =>
    have hleads := (leads_shutdown ht hfits).1
    rw [shutdown_timed] at hleads
    obtain ⟨hwaiting, hbalanced, hcapacity, hended⟩ := (leads_shutdown h hfits).2
    exact ⟨hleads, hwaiting, hbalanced, hcapacity, hended⟩
  | abandon =>
    have hleads := (leads_abandon ht).1
    rw [abandon_timed] at hleads
    exact ⟨hleads, (leads_abandon h).2⟩

lemma leads_operateAll (h : Settled p) {operations : List Operation} (hfit : p.Fit operations)
    (clock : Nat) (next : Option Nat) :
    Leads (p.timed clock next) ((p.operateAll operations).timed clock next) := by
  induction operations generalizing p with
  | nil => exact .refl _
  | cons o os ih =>
    obtain ⟨hfits, hrest⟩ := hfit
    obtain ⟨hleads, h'⟩ := leads_operate h hfits clock next
    exact hleads.trans (ih h' hrest)

/-- Operations that follow one another from the start of a pipeline are a run of the parties: each
that is possible when its turn comes, in any number and any order. The parties read no clock. -/
theorem exists_perform_eq_operateAll {t : Transport σ} {settings : Settings} {connection : σ}
    {log : List Log.Entry} (h : start t settings connection = .ok (log, p))
    {operations : List Operation} (hfit : p.Fit operations) :
    ∃ actions, ((new p).perform actions).pipeline =
      (p.operateAll operations).timed p.clock p.nextSweep := by
  have hleads := leads_operateAll (Settled.of_start h) hfit p.clock p.nextSweep
  obtain ⟨s', ⟨actions, rfl⟩, hs'⟩ := hleads (new p) ⟨rfl, ⟨rfl, rfl⟩, rfl⟩
  exact ⟨actions, hs'.pipeline⟩

end Parties

end TrafficFeed
