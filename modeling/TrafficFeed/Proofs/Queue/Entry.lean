import Mathlib.Tactic.Lemma
import TrafficFeed.Queue

/-!
# Into the queue and out of it

The ways in which a producer sends, the single poll of a waiting send, and, for each operation on
a queue, all that it can do. What follows speaks of `Entry`, `Poll` and `Receipt` and opens no
operation any more.
-/

namespace TrafficFeed.Queue

variable {α : Type}

/-! ### Operations -/

/-- The ways of sending. -/
inductive Way where
  /-- It never waits. -/
  | attempt
  /-- A task, which may wait. -/
  | task
  | blocking (caller : Caller)
  deriving DecidableEq, Repr

/-- Sends in a given way. A thread that would wait stands in line with the tasks that do. -/
def enter (q : Queue α) (way : Way) (a : α) : Sent × Queue α :=
  match way with
  | .attempt => (.ofExcept (q.trySend a).1, (q.trySend a).2)
  | .task => q.send a
  | .blocking caller =>
    match q.sendBlocking? caller a with
    | some (r, q') => (.ofExcept r, q')
    | none => q.send a

/-- Resumes the waiting send at a place. One that goes on waiting keeps its place. -/
def poll (q : Queue α) (i : Nat) : Sent × Queue α :=
  match q.waiting[i]? with
  | none => (.pending, q)
  | some w =>
    match { q with waiting := q.waiting.eraseIdx i }.resume w with
    | (.pending, _) => (.pending, q)
    | polled => polled

/-! ### What they can do -/

/-- All that a send can do. -/
inductive Entry (q : Queue α) (way : Way) (a : α) : Sent → Queue α → Prop where
  | closed (h : q.closed = true) : Entry q way a (.failed .closed) q
  | enters (h : q.closed = false) (hfree : q.free ≠ 0) : Entry q way a .ok (q.push a)
  | full (h : q.closed = false) (hfree : q.free = 0)
      (hway : q.policy = .dropNewest ∨ way = .attempt) : Entry q way a (.failed .full) q
  | stuck (h : q.closed = false) (hfree : q.free = 0) (hpolicy : q.policy = .block)
      (hway : way = .blocking .loop) : Entry q way a (.failed .cannotBlock) q
  | waits (h : q.closed = false) (hfree : q.free = 0) (hpolicy : q.policy = .block)
      (hway : way = .task ∨ way = .blocking .thread) :
      Entry q way a .pending { q with waiting := q.waiting ++ [⟨a, false⟩] }

lemma trySend_of_closed {q : Queue α} (h : q.closed = true) (a : α) :
    q.trySend a = (.error .closed, q) := by
  simp [trySend, h]

lemma trySend_of_free {q : Queue α} (h : q.closed = false) (hfree : q.free ≠ 0) (a : α) :
    q.trySend a = (.ok (), q.push a) := by
  simp [trySend, h, hfree]

lemma trySend_of_full {q : Queue α} (h : q.closed = false) (hfree : q.free = 0) (a : α) :
    q.trySend a = (.error .full, q) := by
  simp [trySend, h, hfree]

lemma send_of_full {q : Queue α} (h : q.closed = false) (hfree : q.free = 0)
    (hpolicy : q.policy = .block) (a : α) :
    q.send a = (.pending, { q with waiting := q.waiting ++ [⟨a, false⟩] }) := by
  unfold send
  rw [trySend_of_full h hfree]
  split <;> simp_all

lemma enter_of_closed {q : Queue α} (h : q.closed = true) (way : Way) (a : α) :
    q.enter way a = (.failed .closed, q) := by
  cases hp : q.policy <;> rcases way with _ | _ | _ | _ <;>
    simp [enter, send, sendBlocking?, trySend_of_closed h, hp, Sent.ofExcept]

lemma enter_of_free {q : Queue α} (h : q.closed = false) (hfree : q.free ≠ 0) (way : Way)
    (a : α) : q.enter way a = (.ok, q.push a) := by
  cases hp : q.policy <;> rcases way with _ | _ | _ | _ <;>
    simp [enter, send, sendBlocking?, trySend_of_free h hfree, hp, Sent.ofExcept]

lemma enter_of_dropNewest {q : Queue α} (h : q.closed = false) (hfree : q.free = 0)
    (hp : q.policy = .dropNewest) (way : Way) (a : α) : q.enter way a = (.failed .full, q) := by
  rcases way with _ | _ | _ | _ <;>
    simp [enter, send, sendBlocking?, trySend_of_full h hfree, hp, Sent.ofExcept]

lemma enter_loop_of_full {q : Queue α} (h : q.closed = false) (hfree : q.free = 0)
    (hp : q.policy = .block) (a : α) :
    q.enter (.blocking .loop) a = (.failed .cannotBlock, q) := by
  simp [enter, sendBlocking?, trySend_of_full h hfree, hp, Sent.ofExcept]

/-- A task and a thread wait in the same line. -/
lemma enter_of_full {q : Queue α} (h : q.closed = false) (hfree : q.free = 0)
    (hp : q.policy = .block) {way : Way} (hway : way = .task ∨ way = .blocking .thread) (a : α) :
    q.enter way a = (.pending, { q with waiting := q.waiting ++ [⟨a, false⟩] }) := by
  rcases hway with rfl | rfl
  · exact send_of_full h hfree hp a
  · have hnone : q.sendBlocking? .thread a = none := by
      simp [sendBlocking?, trySend_of_full h hfree, hp]
    simp only [enter, hnone]
    exact send_of_full h hfree hp a

lemma Entry.of_enter (q : Queue α) (way : Way) (a : α) :
    Entry q way a (q.enter way a).1 (q.enter way a).2 := by
  cases h : q.closed with
  | true =>
    rw [enter_of_closed h]
    exact .closed h
  | false =>
    by_cases hfree : q.free = 0
    · cases hp : q.policy with
      | dropNewest =>
        rw [enter_of_dropNewest h hfree hp]
        exact .full h hfree (.inl hp)
      | block =>
        rcases way with _ | _ | _ | _
        · rw [enter, trySend_of_full h hfree]
          exact .full h hfree (.inr rfl)
        · rw [enter_of_full h hfree hp (.inl rfl)]
          exact .waits h hfree hp (.inl rfl)
        · rw [enter_of_full h hfree hp (.inr rfl)]
          exact .waits h hfree hp (.inr rfl)
        · rw [enter_loop_of_full h hfree hp]
          exact .stuck h hfree hp rfl
    · rw [enter_of_free h hfree]
      exact .enters h hfree

/-- All that a poll can do. -/
inductive Poll (q : Queue α) (i : Nat) : Sent → Queue α → Prop where
  | pending : Poll q i .pending q
  | enters (w : Waiter α) (hw : q.waiting[i]? = some w) (h : q.closed = false)
      (hready : w.ready = true) :
      Poll q i .ok { q with waiting := q.waiting.eraseIdx i, items := q.items ++ [w.item] }
  | fails (w : Waiter α) (hw : q.waiting[i]? = some w) (h : q.closed = true) :
      Poll q i (.failed .closed)
        { q with waiting := q.waiting.eraseIdx i, free := q.free + if w.ready then 1 else 0 }

lemma Poll.of_poll (q : Queue α) (i : Nat) : Poll q i (q.poll i).1 (q.poll i).2 := by
  unfold poll
  cases hw : q.waiting[i]? with
  | none => exact .pending
  | some w =>
    cases h : q.closed <;> cases hready : w.ready <;> simp only [resume, hready]
    · exact .pending
    · simpa [h] using Poll.enters w hw h hready
    · simpa [h, hready] using Poll.fails w hw h
    · simpa [h, hready] using Poll.fails w hw h

/-- All that a receipt can do. -/
inductive Receipt (q : Queue α) : Received α → Queue α → Prop where
  | item (a : α) (items : List α) (h : q.items = a :: items) :
      Receipt q (.item a) (release { q with items })
  | pending (h : q.items = []) : Receipt q .pending q
  | finished (h : q.items = [])
      (hover : q.orphaned = true ∨ q.closed = true ∧ q.free = q.capacity) :
      Receipt q .finished q

lemma Receipt.of_receive (q : Queue α) : Receipt q q.receive.1 q.receive.2 := by
  unfold receive
  split
  · next a items h => exact .item a items h
  · next h =>
    split
    · next hover => exact .finished h (by simpa using hover)
    · exact .pending h

/-! ### Taking back a slot -/

lemma release_of_nil {q : Queue α} (h : q.waiting = []) :
    q.release = { q with free := q.free + 1 } := by
  unfold release
  rw [h]
  cases q.closed <;> rfl

/-- Where nobody waits, every slot is free after the last receipt. -/
lemma drain_of_nil {q : Queue α} (h : q.waiting = []) :
    q.drain.2 = { q with items := [], free := q.free + q.items.length } := by
  have hfold : ∀ (items : List α) (q : Queue α), q.items = items → q.waiting = [] →
      items.foldl (fun q _ => q.receive.2) q =
        { q with items := [], free := q.free + items.length } := by
    intro items
    induction items with
    | nil =>
      rintro ⟨capacity, policy, free, items, waiting, closed, orphaned⟩ hitems -
      obtain rfl : items = [] := hitems
      rfl
    | cons a items ih =>
      intro q hitems hwaiting
      have hreceive : q.receive.2 = { q with items, free := q.free + 1 } := by
        simp only [receive, hitems]
        exact release_of_nil hwaiting
      have hrest := ih { q with items, free := q.free + 1 } rfl hwaiting
      rw [List.foldl_cons, hreceive, hrest, List.length_cons, Nat.add_assoc, Nat.add_comm 1]
  exact hfold _ q rfl h

lemma map_item_grant? {ws granted : List (Waiter α)} (h : grant? ws = some granted) :
    granted.map (·.item) = ws.map (·.item) := by
  induction ws generalizing granted with
  | nil => simp [grant?] at h
  | cons w ws ih =>
    simp only [grant?] at h
    split at h
    · obtain ⟨rest, hrest, rfl⟩ := Option.map_eq_some_iff.mp h
      simp [ih hrest]
    · cases h
      rfl

@[simp] lemma map_item_release (q : Queue α) :
    q.release.waiting.map (·.item) = q.waiting.map (·.item) := by
  unfold release
  split
  · next granted h =>
    split at h
    · simp at h
    · exact map_item_grant? h
  · rfl

@[simp] lemma closed_release (q : Queue α) : q.release.closed = q.closed := by
  unfold release
  split <;> rfl

@[simp] lemma orphaned_release (q : Queue α) : q.release.orphaned = q.orphaned := by
  unfold release
  split <;> rfl

@[simp] lemma capacity_release (q : Queue α) : q.release.capacity = q.capacity := by
  unfold release
  split <;> rfl

@[simp] lemma policy_release (q : Queue α) : q.release.policy = q.policy := by
  unfold release
  split <;> rfl

end TrafficFeed.Queue
