import TrafficFeed.Proofs.Queue.Entry

/-!
# The slots of a queue

A slot is free, or taken by an item, or held for a waiting send. No operation loses one or makes
one up, so what a queue reports as its size is what its items and its waiting sends have taken.
-/

namespace TrafficFeed.Queue

variable {α : Type}

/-- Every slot is free, taken by an item, or held for a waiting send. -/
def Balanced (q : Queue α) : Prop :=
  q.free + q.items.length + heldSlots q.waiting = q.capacity

/-! ### Slots held by waiting sends -/

@[simp] lemma heldSlots_nil : heldSlots ([] : List (Waiter α)) = 0 := rfl

@[simp] lemma heldSlots_cons (w : Waiter α) (ws : List (Waiter α)) :
    heldSlots (w :: ws) = (if w.ready then 1 else 0) + heldSlots ws := by
  cases h : w.ready <;> simp [heldSlots, h, Nat.add_comm]

@[simp] lemma heldSlots_append (ws vs : List (Waiter α)) :
    heldSlots (ws ++ vs) = heldSlots ws + heldSlots vs := by
  simp [heldSlots]

lemma heldSlots_eraseIdx {ws : List (Waiter α)} {i : Nat} {w : Waiter α} (h : ws[i]? = some w) :
    heldSlots (ws.eraseIdx i) + (if w.ready then 1 else 0) = heldSlots ws := by
  induction ws generalizing i with
  | nil => simp at h
  | cons v ws ih =>
    cases i with
    | zero =>
      simp only [List.getElem?_cons_zero, Option.some.injEq] at h
      simp [h, Nat.add_comm]
    | succ i =>
      simp only [List.getElem?_cons_succ] at h
      have := ih h
      simp only [List.eraseIdx_cons_succ, heldSlots_cons]
      omega

lemma heldSlots_grant? {ws granted : List (Waiter α)} (h : grant? ws = some granted) :
    heldSlots granted = heldSlots ws + 1 := by
  induction ws generalizing granted with
  | nil => simp [grant?] at h
  | cons w ws ih =>
    simp only [grant?] at h
    split at h
    · obtain ⟨rest, hrest, rfl⟩ := Option.map_eq_some_iff.mp h
      simp [ih hrest, Nat.add_assoc]
    · next hready =>
      cases h
      simp [hready, Nat.add_comm]

/-! ### No operation loses a slot -/

lemma Balanced.new (capacity : Nat) (policy : Policy) :
    Balanced (Queue.new capacity policy : Queue α) := by
  simp [Balanced, Queue.new]

lemma Balanced.entry {q q' : Queue α} {way : Way} {a : α} {r : Sent} (h : Balanced q)
    (he : Entry q way a r q') : Balanced q' := by
  cases he with
  | closed | full | stuck => exact h
  | enters hopen hfree =>
    simp only [Balanced, push, List.length_append, List.length_singleton] at h ⊢
    omega
  | waits => simpa [Balanced] using h

lemma Balanced.poll {q q' : Queue α} {i : Nat} {r : Sent} (h : Balanced q) (hp : Poll q i r q') :
    Balanced q' := by
  cases hp with
  | pending => exact h
  | enters w hw hopen hready =>
    have := heldSlots_eraseIdx hw
    simp only [Balanced, List.length_append, List.length_singleton, hready, if_true] at h this ⊢
    omega
  | fails w hw =>
    have := heldSlots_eraseIdx hw
    simp only [Balanced] at h ⊢
    omega

/-- A slot taken back is free again or held for the oldest waiting send. -/
lemma Balanced.release {q : Queue α}
    (h : q.free + q.items.length + heldSlots q.waiting + 1 = q.capacity) :
    Balanced q.release := by
  unfold Queue.release
  split
  · next granted hg =>
    split at hg
    · simp at hg
    · have := heldSlots_grant? hg
      simp only [Balanced]
      omega
  · simp only [Balanced]
    omega

lemma Balanced.receipt {q q' : Queue α} {r : Received α} (h : Balanced q) (hr : Receipt q r q') :
    Balanced q' := by
  cases hr with
  | item a items hitems =>
    apply Balanced.release
    simp only [Balanced, hitems, List.length_cons] at h
    simp only
    omega
  | pending | finished => exact h

lemma Balanced.close {q : Queue α} (h : Balanced q) : Balanced q.close := h

lemma Balanced.orphan {q : Queue α} (h : Balanced q) : Balanced q.orphan := by
  simp only [Balanced, Queue.orphan, heldSlots_nil] at h ⊢
  omega

/-- The reported size is the number of items and of slots held for waiting sends. -/
lemma Balanced.size_eq {q : Queue α} (h : Balanced q) :
    q.size = q.items.length + heldSlots q.waiting := by
  simp only [Balanced, size] at h ⊢
  omega

/-! ### No free slot is withheld -/

/-- A slot of an open queue is free only where every waiting send holds one. -/
def Eager (q : Queue α) : Prop := q.closed = false → q.free ≠ 0 → ∀ w ∈ q.waiting, w.ready = true

lemma ready_of_grant?_eq_none {ws : List (Waiter α)} (h : grant? ws = none) :
    ∀ w ∈ ws, w.ready = true := by
  induction ws with
  | nil => simp
  | cons w ws ih =>
    simp only [grant?] at h
    split at h
    · next hready =>
      intro v hv
      rcases List.mem_cons.mp hv with rfl | hv
      · exact hready
      · exact ih (by simpa using h) v hv
    · cases h

lemma grant?_eq_none_of_ready {ws : List (Waiter α)} (h : ∀ w ∈ ws, w.ready = true) :
    grant? ws = none := by
  induction ws with
  | nil => rfl
  | cons w ws ih =>
    have hrest := ih fun v hv => h v (List.mem_cons_of_mem _ hv)
    simp [grant?, h w List.mem_cons_self, hrest]

lemma Eager.release {q : Queue α} (h : Eager q) : Eager q.release := by
  intro hopen hfree
  rw [closed_release] at hopen
  unfold Queue.release at hfree ⊢
  rw [hopen] at hfree ⊢
  cases hg : grant? q.waiting with
  | none => exact ready_of_grant?_eq_none hg
  | some granted =>
    -- a slot that is free already leaves nothing to grant
    simp only [hg] at hfree
    have hnone := grant?_eq_none_of_ready (h hopen hfree)
    rw [hg] at hnone
    cases hnone

/-- Where sends wait at an open queue without items, one of them holds a slot. -/
lemma exists_ready {q : Queue α} (hbalanced : Balanced q) (heager : Eager q)
    (hopen : q.closed = false) (hcapacity : 0 < q.capacity) (hitems : q.items = [])
    (hwaiting : q.waiting ≠ []) : ∃ (i : Nat) (w : Waiter α), q.waiting[i]? = some w ∧
      w.ready = true := by
  have hmem : ∃ w ∈ q.waiting, w.ready = true := by
    by_cases hfree : q.free = 0
    · have hheld : heldSlots q.waiting ≠ 0 := by
        simp only [Balanced, hfree, hitems, List.length_nil] at hbalanced
        omega
      obtain ⟨w, hw⟩ := List.exists_mem_of_length_pos (Nat.pos_of_ne_zero hheld)
      exact ⟨w, List.mem_filter.mp hw⟩
    · obtain ⟨w, ws, hcons⟩ := List.exists_cons_of_ne_nil hwaiting
      have hw : w ∈ q.waiting := hcons ▸ List.mem_cons_self
      exact ⟨w, hw, heager hopen hfree w hw⟩
  obtain ⟨w, hw, hready⟩ := hmem
  obtain ⟨i, hi⟩ := List.mem_iff_getElem?.mp hw
  exact ⟨i, w, hi, hready⟩

end TrafficFeed.Queue
