import TrafficFeed.Proofs.Parties.Capture
import TrafficFeed.Proofs.Queue.Slots

/-!
# Whole operations

What can be done to a pipeline where each operation comes to its end before the next begins, and
what a pipeline is like between two of them. The reading of the clock decides when the next sweep
takes place, and nothing else depends on it.
-/

namespace TrafficFeed.Pipeline

variable {σ : Type}

/-- A pipeline between two operations: nobody waits, no slot is lost, and the worker has stopped
only if no event will come any more. -/
structure Settled (p : Pipeline σ) : Prop where
  waiting : p.queue.waiting = []
  balanced : Queue.Balanced p.queue
  capacity : 0 < p.queue.capacity
  ended : p.worker = .stopped → p.isOver = true

lemma Settled.of_start {t : Transport σ} {settings : Settings} {connection : σ}
    {log : List Log.Entry} {p : Pipeline σ} (h : start t settings connection = .ok (log, p)) :
    Settled p := by
  simp only [start, Queue.bounded] at h
  cases hvalid : settings.validate with
  | error e => simp [hvalid] at h
  | ok =>
    by_cases hzero : settings.queueCapacity = 0
    · simp [hvalid, hzero] at h
    · by_cases hlarge : Queue.maxCapacity < settings.queueCapacity
      · simp [hvalid, hzero, hlarge] at h
      · simp only [hvalid, if_neg hzero, if_neg hlarge, Except.ok.injEq, Prod.mk.injEq] at h
        obtain ⟨-, rfl⟩ := h
        exact ⟨rfl, Queue.Balanced.new _ _, Nat.pos_of_ne_zero hzero, fun hstop => by cases hstop⟩

/-- The pipeline after an event has been offered to the queue and counted. -/
def offered (p : Pipeline σ) (host : Host) (e : Event) : Pipeline σ :=
  ((p.offer host e).2.2.recordOffer e.label (p.offer host e).1).2

lemma enqueue_cons (host : Host) (e : Event) (es : List Event) (p : Pipeline σ) :
    (enqueue host (e :: es) p).2 = (enqueue host es (p.offered host e)).2 := rfl

/-! ### Operations -/

/-- What can be done to a pipeline. -/
inductive Operation where
  | capture (side : Direction) (host : Host) (flow : Flow) (moment : Moment)
  | settle
  | sweep (now : Nat)
  | advance (elapsed now : Nat)
  | shutdown
  | abandon

def operate (p : Pipeline σ) : Operation → Pipeline σ
  | .capture .request host flow moment => (p.captureRequest host flow moment).2
  | .capture .response host flow moment => (p.captureResponse host flow moment).2
  | .settle => p.settle.2
  | .sweep now => (p.sweep now).2
  | .advance elapsed now => (p.advance elapsed now).2
  | .shutdown => p.shutdown.2
  | .abandon => p.abandon.2

/-- Whether an operation is possible: what has been abandoned neither captures nor shuts down. -/
def fits (p : Pipeline σ) : Operation → Prop
  | .capture .. | .shutdown => p.queue.orphaned = false
  | .settle | .sweep _ | .advance .. | .abandon => True

def operateAll (p : Pipeline σ) (operations : List Operation) : Pipeline σ :=
  operations.foldl operate p

/-- Whether each operation is possible when its turn comes. -/
def Fit (p : Pipeline σ) : List Operation → Prop
  | [] => True
  | o :: os => p.fits o ∧ Fit (p.operate o) os

lemma operate_capture (p : Pipeline σ) (side : Direction) (host : Host) (flow : Flow)
    (moment : Moment) : p.operate (.capture side host flow moment) =
      (enqueue host (p.eventsOf side flow moment).1 (p.eventsOf side flow moment).2.2).2 := by
  cases side <;> rfl

variable {p : Pipeline σ}

/-! ### Offers that end at once -/

lemma offer_of_closed (h : p.queue.closed = true) (host : Host) (e : Event) :
    p.offer host e = (.error .closed, [], { p with queue := p.queue }) := by
  have hsend := Queue.trySend_of_closed h e
  cases hp : p.queue.policy <;> cases host <;> simp [offer, hsend, hp]

lemma offer_of_free (h : p.queue.closed = false) (hfree : p.queue.free ≠ 0) (host : Host)
    (e : Event) : p.offer host e = (.ok (), [], { p with queue := p.queue.push e }) := by
  have hsend := Queue.trySend_of_free h hfree e
  cases hp : p.queue.policy <;> cases host <;> simp [offer, hsend, hp]

lemma offer_of_dropNewest (h : p.queue.closed = false) (hfree : p.queue.free = 0)
    (hp : p.queue.policy = .dropNewest) (host : Host) (e : Event) :
    p.offer host e = (.error .full, [], { p with queue := p.queue }) := by
  have hsend := Queue.trySend_of_full h hfree e
  cases host <;> simp [offer, hsend, hp]

lemma offer_loop_of_full (h : p.queue.closed = false) (hfree : p.queue.free = 0)
    (hp : p.queue.policy = .block) (e : Event) :
    p.offer .loop e = (.error .cannotBlock, [], { p with queue := p.queue }) := by
  have hsend := Queue.trySend_of_full h hfree e
  simp [offer, hsend, hp]

lemma offered_of_offer {host : Host} {e : Event} {r : Except Queue.SendError Unit}
    {q : Queue Event} (h : p.offer host e = (r, [], { p with queue := q })) :
    p.offered host e = { p with queue := q }.mapMetrics (·.count (offerCounter r)) := by
  rw [offered, h, recordOffer_eq]

/-! ### The worker -/

lemma wake_of_not_stopped (h : p.worker ≠ .stopped) :
    p.wake.2 = { p with worker := .running } := by
  obtain ⟨transport, schema, queue, cache, delivery, worker, interval, clock, next⟩ := p
  cases worker with
  | idle | running => rfl
  | stopped => exact absurd rfl h

lemma settle_of_stopped (h : p.worker = .stopped) : p.settle.2 = p := by
  rw [settle, if_pos h]

/-- What is left of a pipeline after the worker has delivered all, and stopped if it had to. -/
lemma settle_of_not_stopped (h : p.worker ≠ .stopped) : p.settle.2 =
    (let delivered := { p with
      worker := .running
      queue := p.queue.drain.2
      delivery := (Delivery.deliverAll p.transport p.queue.drain.1 p.delivery).2 }
    if delivered.isOver then { delivered with
      delivery := (Delivery.stop p.transport delivered.delivery).2
      worker := .stopped }
    else delivered) := by
  unfold settle
  rw [if_neg h]
  simp only [wake_of_not_stopped h]
  split <;> rfl

lemma Settled.settle (h : Settled p) : Settled p.settle.2 := by
  by_cases hstop : p.worker = .stopped
  · rw [settle_of_stopped hstop]
    exact h
  · have hbalanced := h.balanced
    rw [settle_of_not_stopped hstop, Queue.drain_of_nil h.waiting]
    simp only [Queue.Balanced, h.waiting, Queue.heldSlots_nil] at hbalanced
    dsimp only
    split
    · next hover =>
      exact ⟨h.waiting, by simpa [Queue.Balanced, h.waiting], h.capacity, fun _ => hover⟩
    · exact ⟨h.waiting, by simpa [Queue.Balanced, h.waiting], h.capacity, fun hs => by cases hs⟩

lemma Settled.sweep (h : Settled p) (now : Nat) : Settled (p.sweep now).2 :=
  ⟨h.waiting, h.balanced, h.capacity, h.ended⟩

/-! ### The reading of the clock -/

/-- A pipeline at another reading of the clock. -/
def timed (p : Pipeline σ) (clock : Nat) (next : Option Nat) : Pipeline σ :=
  { p with clock, nextSweep := next }

/-- A pipeline is as settled at any other reading. -/
lemma settled_timed (clock : Nat) (next : Option Nat) :
    Settled (p.timed clock next) ↔ Settled p :=
  ⟨fun h => ⟨h.waiting, h.balanced, h.capacity, h.ended⟩,
    fun h => ⟨h.waiting, h.balanced, h.capacity, h.ended⟩⟩

variable (p : Pipeline σ) (clock : Nat) (next : Option Nat)

lemma wake_timed : (p.timed clock next).wake.2 = p.wake.2.timed clock next := by
  obtain ⟨transport, schema, queue, cache, delivery, worker, interval, clock', next'⟩ := p
  cases worker <;> rfl

lemma deliverNext_timed :
    (p.timed clock next).deliverNext.2 = p.deliverNext.2.timed clock next := by
  have hwake := wake_timed p clock next
  unfold deliverNext
  simp only [hwake]
  have hreceive : (p.wake.2.timed clock next).queue.receive = p.wake.2.queue.receive := rfl
  rw [hreceive]
  rcases p.wake.2.queue.receive with ⟨received, queue⟩
  cases received <;> rfl

lemma offered_timed (host : Host) (e : Event) :
    (p.timed clock next).offered host e = (p.offered host e).timed clock next := by
  have hdeliver := deliverNext_timed p clock next
  have hsend : (p.timed clock next).queue.trySend e = p.queue.trySend e := rfl
  have hpolicy : (p.timed clock next).queue.policy = p.queue.policy := rfl
  simp only [offered, recordOffer_eq, offer, hsend, hpolicy]
  rcases p.queue.trySend e with ⟨sent, queue⟩
  rcases sent with refused | _
  · cases refused with
    | full =>
      cases p.queue.policy with
      | block =>
        cases host with
        | loop => rfl
        | task | thread =>
          simp only [hdeliver]
          rfl
      | dropNewest => cases host <;> rfl
    | closed | cannotBlock => cases p.queue.policy <;> cases host <;> rfl
  · cases p.queue.policy <;> cases host <;> rfl

lemma enqueue_timed (host : Host) (events : List Event) :
    (enqueue host events (p.timed clock next)).2 =
      (enqueue host events p).2.timed clock next := by
  induction events generalizing p with
  | nil => rfl
  | cons e es ih => rw [enqueue_cons, enqueue_cons, offered_timed, ih]

lemma eventsOf_timed (side : Direction) (flow : Flow) (moment : Moment) :
    ((p.timed clock next).eventsOf side flow moment).1 = (p.eventsOf side flow moment).1 ∧
      ((p.timed clock next).eventsOf side flow moment).2.2 =
        (p.eventsOf side flow moment).2.2.timed clock next := by
  obtain ⟨transport, schema, queue, cache, delivery, worker, interval, clock', next'⟩ := p
  cases side with
  | request => cases schema <;> exact ⟨rfl, rfl⟩
  | response =>
    simp only [eventsOf, responseEvents, timed]
    cases flow.response with
    | none => exact ⟨rfl, rfl⟩
    | some response =>
      cases schema with
      | plain => exact ⟨rfl, rfl⟩
      | enriched =>
        simp only [Correlation.take]
        cases cache.get? flow.id <;> exact ⟨trivial, rfl⟩

lemma settle_timed : (p.timed clock next).settle.2 = p.settle.2.timed clock next := by
  by_cases h : p.worker = .stopped
  · have h' : (p.timed clock next).worker = .stopped := h
    rw [settle_of_stopped h, settle_of_stopped h']
  · have h' : (p.timed clock next).worker ≠ .stopped := h
    rw [settle_of_not_stopped h, settle_of_not_stopped h']
    dsimp only [timed]
    split <;> split <;> first | rfl | contradiction

/-- A pipeline settles when time passes, and after that it may sweep. -/
lemma advance_timed (elapsed now : Nat) :
    (p.advance elapsed now).2.timed clock next = p.settle.2.timed clock next ∨
      (p.advance elapsed now).2.timed clock next =
        ((p.settle.2.timed clock next).sweep now).2 := by
  simp only [advance]
  split
  · split
    · exact .inr rfl
    · exact .inl rfl
  · exact .inl rfl

lemma shutdown_timed :
    { p.timed clock next with queue := (p.timed clock next).queue.close }.settle.2 =
      p.shutdown.2.timed clock next :=
  settle_timed { p with queue := p.queue.close } clock next

lemma abandon_timed : (p.timed clock next).abandon.2 = p.abandon.2.timed clock next :=
  settle_timed { p with queue := p.queue.orphan } clock next

end TrafficFeed.Pipeline
