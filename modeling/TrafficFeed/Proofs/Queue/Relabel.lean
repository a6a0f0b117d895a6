import Mathlib.Data.List.InsertIdx
import TrafficFeed.Proofs.Queue.Entry

/-!
# A queue does not look at its items

Every operation on a queue commutes with a change of the items: what is answered, and which item
goes where, depends on the slots and on the order of the sends alone. So the items may be given
marks that tell equal ones apart, and what is shown of the marked items holds of the plain ones.
-/

namespace TrafficFeed.Queue

variable {α β : Type}

/-! ### Changing the items -/

def Waiter.map (f : α → β) (w : Waiter α) : Waiter β := ⟨f w.item, w.ready⟩

@[simp] lemma Waiter.item_map (f : α → β) (w : Waiter α) : (w.map f).item = f w.item := rfl

@[simp] lemma Waiter.ready_map (f : α → β) (w : Waiter α) : (w.map f).ready = w.ready := rfl

def Received.map (f : α → β) : Received α → Received β
  | .item a => .item (f a)
  | .pending => .pending
  | .finished => .finished

/-- Changes every item inside a queue and of every waiting send. -/
def map (f : α → β) (q : Queue α) : Queue β :=
  { capacity := q.capacity
    policy := q.policy
    free := q.free
    items := q.items.map f
    waiting := q.waiting.map (Waiter.map f)
    closed := q.closed
    orphaned := q.orphaned }

section

variable (f : α → β) (q : Queue α)

@[simp] lemma capacity_map : (q.map f).capacity = q.capacity := rfl

@[simp] lemma policy_map : (q.map f).policy = q.policy := rfl

@[simp] lemma free_map : (q.map f).free = q.free := rfl

@[simp] lemma items_map : (q.map f).items = q.items.map f := rfl

@[simp] lemma waiting_map : (q.map f).waiting = q.waiting.map (Waiter.map f) := rfl

@[simp] lemma closed_map : (q.map f).closed = q.closed := rfl

@[simp] lemma orphaned_map : (q.map f).orphaned = q.orphaned := rfl

@[simp] lemma map_new (capacity : Nat) (policy : Policy) :
    (new capacity policy : Queue α).map f = new capacity policy := rfl

@[simp] lemma map_close : (q.map f).close = q.close.map f := rfl

lemma map_push (a : α) : (q.map f).push (f a) = (q.push a).map f := by
  simp [push, map]

lemma map_join (a : α) (ready : Bool) :
    { q.map f with waiting := (q.map f).waiting ++ [⟨f a, ready⟩] } =
      map f { q with waiting := q.waiting ++ [⟨a, ready⟩] } := by
  simp [map, Waiter.map]

end

/-! ### Operations -/

lemma heldSlots_map (f : α → β) (ws : List (Waiter α)) :
    heldSlots (ws.map (Waiter.map f)) = heldSlots ws := by
  simp [heldSlots, List.filter_map, Function.comp_def]

lemma map_orphan (f : α → β) (q : Queue α) : (q.map f).orphan = q.orphan.map f := by
  simp [orphan, map, heldSlots_map]

/-- A send is answered in the same way, whatever is sent. -/
lemma map_enter (f : α → β) (q : Queue α) (way : Way) (a : α) :
    (q.map f).enter way (f a) = ((q.enter way a).1, (q.enter way a).2.map f) := by
  have hentry : ∀ r q', Entry q way a r q' → (q.map f).enter way (f a) = (r, q'.map f) := by
    rintro r _ (h | ⟨h, hfree⟩ | ⟨h, hfree, hway⟩ | ⟨h, hfree, hpolicy, rfl⟩ |
      ⟨h, hfree, hpolicy, hway⟩)
    · exact enter_of_closed (q := q.map f) h way (f a)
    · rw [enter_of_free (q := q.map f) h hfree, map_push]
    · rcases hway with hpolicy | rfl
      · exact enter_of_dropNewest (q := q.map f) h hfree hpolicy way (f a)
      · rw [enter, trySend_of_full (q := q.map f) h hfree]
        rfl
    · exact enter_loop_of_full (q := q.map f) h hfree hpolicy (f a)
    · rw [enter_of_full (q := q.map f) h hfree hpolicy hway, map_join]
  exact hentry _ _ (Entry.of_enter q way a)

lemma map_poll (f : α → β) (q : Queue α) (i : Nat) :
    (q.map f).poll i = ((q.poll i).1, (q.poll i).2.map f) := by
  unfold poll
  rw [waiting_map, List.getElem?_map]
  cases q.waiting[i]? with
  | none => rfl
  | some w =>
    cases h : q.closed <;> cases hready : w.ready <;>
      simp [resume, h, hready, map, List.eraseIdx_map]

lemma map_grant? (f : α → β) (ws : List (Waiter α)) :
    grant? (ws.map (Waiter.map f)) = (grant? ws).map (List.map (Waiter.map f)) := by
  induction ws with
  | nil => rfl
  | cons w ws ih =>
    cases h : w.ready with
    | true => simp [grant?, h, ih, Function.comp_def]
    | false => simp [grant?, h, Waiter.map]

lemma map_release (f : α → β) (q : Queue α) : (q.map f).release = q.release.map f := by
  unfold release
  rw [waiting_map, closed_map, map_grant?]
  cases q.closed with
  | true => rfl
  | false => cases grant? q.waiting <;> simp [map]

lemma map_receive (f : α → β) (q : Queue α) :
    (q.map f).receive = (q.receive.1.map f, q.receive.2.map f) := by
  cases hitems : q.items with
  | nil =>
    have hmap : (q.map f).items = [] := by simp [hitems]
    simp only [receive, hitems, hmap]
    split
    · next hover => rw [if_pos (by exact hover)]; rfl
    · next hover => rw [if_neg (by exact hover)]; rfl
  | cons a items =>
    have hmap : (q.map f).items = f a :: items.map f := by simp [hitems]
    simp only [receive, hitems, hmap]
    exact Prod.ext rfl (map_release f { q with items })

end TrafficFeed.Queue
