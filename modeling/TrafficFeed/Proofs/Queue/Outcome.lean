import TrafficFeed.Proofs.Queue.Line

/-!
# What a sender is told

The three ways into a queue, each for itself: the attempt that never waits, the send of a task, and
the send from synchronous code. Whether the queue is closed, whether it has a free slot, the policy
and the caller decide the outcome, and a send that is refused leaves the queue as it was.
-/

namespace TrafficFeed.Queue

variable {α : Type} {q : Queue α}

/-! ### The three ways -/

/-- A closed queue refuses in every way. -/
lemma sends_of_closed (h : q.closed = true) (a : α) : q.trySend a = (.error .closed, q) ∧
    q.send a = (.failed .closed, q) ∧
    ∀ caller, q.sendBlocking? caller a = some (.error .closed, q) := by
  have htry := trySend_of_closed h a
  refine ⟨htry, enter_of_closed h .task a, fun caller => ?_⟩
  cases hp : q.policy <;> cases caller <;> simp [sendBlocking?, htry, hp]

/-- An item enters through a free slot, in the same manner in every way. -/
lemma sends_of_free (h : q.closed = false) (hfree : q.free ≠ 0) (a : α) :
    q.trySend a = (.ok (), q.push a) ∧ q.send a = (.ok, q.push a) ∧
    ∀ caller, q.sendBlocking? caller a = some (.ok (), q.push a) := by
  have htry := trySend_of_free h hfree a
  refine ⟨htry, enter_of_free h hfree .task a, fun caller => ?_⟩
  cases hp : q.policy <;> cases caller <;> simp [sendBlocking?, htry, hp]

lemma sends_of_dropNewest (h : q.closed = false) (hfree : q.free = 0)
    (hpolicy : q.policy = .dropNewest) (a : α) : q.send a = (.failed .full, q) ∧
    ∀ caller, q.sendBlocking? caller a = some (.error .full, q) := by
  refine ⟨enter_of_dropNewest h hfree hpolicy .task a, fun caller => ?_⟩
  simp [sendBlocking?, trySend_of_full h hfree, hpolicy]

lemma sends_of_block (h : q.closed = false) (hfree : q.free = 0) (hpolicy : q.policy = .block)
    (a : α) : q.send a = (.pending, { q with waiting := q.waiting ++ [⟨a, false⟩] }) ∧
    q.sendBlocking? .loop a = some (.error .cannotBlock, q) ∧ q.sendBlocking? .thread a = none := by
  refine ⟨send_of_full h hfree hpolicy a, ?_, ?_⟩ <;>
    simp [sendBlocking?, trySend_of_full h hfree, hpolicy]

/-! ### What is never said -/

variable {q' : Queue α} {r : Sent}

/-- Which outcomes a policy excludes, and what a refusal leaves behind. -/
lemma Entry.excludes {way : Way} {a : α} (h : Entry q way a r q') :
    (q.policy = .block → way ≠ .attempt → r ≠ .failed .full) ∧
    (q.policy = .dropNewest → r ≠ .failed .cannotBlock ∧ r ≠ .pending) ∧
    (∀ e, r = .failed e → q' = q) := by
  cases h with
  | closed | enters => simp
  | full _ _ hway =>
    refine ⟨fun hblock hne _ => ?_, by simp, fun _ _ => rfl⟩
    rcases hway with hdrop | hattempt
    · simp [hdrop] at hblock
    · exact hne hattempt
  | stuck _ _ hblock | waits _ _ hblock => simp [hblock]

/-- A send that has waited fails only at a closed queue, and takes nothing away but itself and the
slot it held. -/
lemma Poll.of_failed {i : Nat} {e : SendError} (h : Poll q i r q') (hr : r = .failed e) :
    e = .closed ∧ q.closed = true ∧ q'.closed = true ∧ q'.items = q.items ∧
      q'.waiting = q.waiting.eraseIdx i := by
  cases h with
  | pending | enters => cases hr
  | fails w hw hclosed =>
    cases hr
    exact ⟨rfl, hclosed, hclosed, rfl, rfl⟩

/-- In every state that a queue can come to, the outcome of a send is this. A closed queue refuses
it as closed, whether or not there is a slot. If there is a slot, the item goes behind all others.
If there is none, the attempt is refused as full, and under `dropNewest` so is every send; under
`block` a task waits at the end of the line, a thread waits, and a caller that must not wait is
told so. So under `block` no sender but the attempt is told that the queue is full, not even after
it has waited; under `dropNewest` none waits or is told that it cannot; and a send that is refused
at once leaves the queue exactly as it was. -/
theorem sends_run (capacity : Nat) (policy : Policy) (steps : List (Step α)) (a : α) :
    let q := ((Queue.new capacity policy).run steps).2
    (q.closed = true → q.trySend a = (.error .closed, q) ∧ q.send a = (.failed .closed, q) ∧
      ∀ caller, q.sendBlocking? caller a = some (.error .closed, q)) ∧
    (q.closed = false → q.size < capacity → ∃ q', q' = { q with
        free := q.free - 1
        items := q.items ++ [a] } ∧ q'.size = q.size + 1 ∧
      q.trySend a = (.ok (), q') ∧ q.send a = (.ok, q') ∧
      ∀ caller, q.sendBlocking? caller a = some (.ok (), q')) ∧
    (q.closed = false → capacity ≤ q.size → q.trySend a = (.error .full, q) ∧
      match policy with
      | .dropNewest => q.send a = (.failed .full, q) ∧
          ∀ caller, q.sendBlocking? caller a = some (.error .full, q)
      | .block => q.send a = (.pending, { q with waiting := q.waiting ++ [⟨a, false⟩] }) ∧
          q.sendBlocking? .loop a = some (.error .cannotBlock, q) ∧
          q.sendBlocking? .thread a = none) ∧
    (∀ way, (policy = .block → way ≠ .attempt → (q.enter way a).1 ≠ .failed .full) ∧
      (policy = .dropNewest →
        (q.enter way a).1 ≠ .failed .cannotBlock ∧ (q.enter way a).1 ≠ .pending) ∧
      (∀ e, (q.enter way a).1 = .failed e → (q.enter way a).2 = q)) ∧
    (∀ i e, (q.poll i).1 = .failed e → e = .closed ∧ q.closed = true ∧
      (q.poll i).2.closed = true ∧ (q.poll i).2.items = q.items ∧
      (q.poll i).2.waiting = q.waiting.eraseIdx i) := by
  intro q
  obtain ⟨hcapacity, hpolicy⟩ := capacity_run (Queue.new capacity policy) steps
  have hcapacity : q.capacity = capacity := hcapacity
  have hpolicy : q.policy = policy := hpolicy
  have hbalanced : Balanced q := Balanced.run capacity policy steps
  have hsize : q.size + q.free = capacity := by
    rw [← hcapacity, size]
    rw [Balanced] at hbalanced
    omega
  refine ⟨fun hclosed => sends_of_closed hclosed a, fun hopen hroom => ?free,
    fun hopen hnone => ?full, fun way => ?excluded, fun i e hfailed => ?polled⟩
  case free =>
    have hfree : q.free ≠ 0 := by omega
    refine ⟨q.push a, rfl, ?_, sends_of_free hopen hfree a⟩
    simp only [push, size, hcapacity] at hsize hroom ⊢
    omega
  case full =>
    have hfree : q.free = 0 := by omega
    refine ⟨trySend_of_full hopen hfree a, ?_⟩
    cases policy with
    | dropNewest => exact sends_of_dropNewest hopen hfree hpolicy a
    | block => exact sends_of_block hopen hfree hpolicy a
  case excluded =>
    rw [← hpolicy]
    exact (Entry.of_enter q way a).excludes
  case polled => exact (Poll.of_poll q i).of_failed hfailed

end TrafficFeed.Queue
