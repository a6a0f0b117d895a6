/-!
# The bounded queue

Events wait here between their capture and their delivery, first in, first out. A queue has a
fixed number of slots; an item takes a slot before it enters and gives it back when it is received.
A send that finds no slot may wait. A slot that becomes free goes to the oldest waiting send at
once, and is held for it until that send resumes and its item enters.

A closed queue takes no item, not even one that already holds a slot, but those inside it can
still be received.
-/

namespace TrafficFeed

namespace Queue

/-- What a producer does at a queue without a free slot. -/
inductive Policy where
  /-- It waits. -/
  | block
  /-- It drops the item. -/
  | dropNewest
  deriving DecidableEq, Repr

/-- Why an item did not enter. -/
inductive SendError where
  | full
  | closed
  /-- There is no free slot, and the producer must not wait. -/
  | cannotBlock
  deriving DecidableEq, Repr

def SendError.message : SendError → String
  | .full => "event queue is full"
  | .closed => "event queue is closed"
  | .cannotBlock => "event queue is full and the current-thread runtime cannot block"

/-- Why a queue cannot have the capacity asked for. -/
inductive CapacityError where
  | zero
  | tooLarge
  deriving DecidableEq, Repr

/-- The largest capacity. -/
def maxCapacity : Nat := (UInt64.size - 1) / 8

def CapacityError.message : CapacityError → String
  | .zero => "mpsc bounded channel requires buffer > 0"
  | .tooLarge =>
    "a semaphore may not have more than MAX_PERMITS permits (" ++ toString maxCapacity ++ ")"

/-- The outcome of a send: the item entered, it was refused, or the send waits. -/
inductive Sent where
  | ok
  | failed (e : SendError)
  | pending
  deriving DecidableEq, Repr

/-- The outcome of a receipt: an item, nothing for now, or nothing any more. -/
inductive Received (α : Type) where
  | item (a : α)
  | pending
  | finished
  deriving DecidableEq, Repr

/-- A send that waits, and whether it holds a slot. -/
structure Waiter (α : Type) where
  item : α
  ready : Bool
  deriving DecidableEq, Repr

/-- From where a synchronous producer calls. -/
inductive Caller where
  /-- A plain thread, or one of several that share the work; it may wait. -/
  | thread
  /-- The only thread that could free a slot; it must not wait. -/
  | loop
  deriving DecidableEq, Repr

end Queue

open Queue in
/-- A queue with `free` slots, the items inside and the waiting sends, both oldest first. -/
structure Queue (α : Type) where
  capacity : Nat
  policy : Policy
  free : Nat
  items : List α
  waiting : List (Waiter α)
  closed : Bool
  /-- Whether no producer is left. -/
  orphaned : Bool
  deriving DecidableEq, Repr

namespace Queue

variable {α : Type}

def new (capacity : Nat) (policy : Policy) : Queue α :=
  { capacity, policy, free := capacity, items := [], waiting := [], closed := false,
    orphaned := false }

/-- An open queue of a capacity that a queue can have. -/
def bounded (capacity : Nat) (policy : Policy) : Except CapacityError (Queue α) :=
  if capacity = 0 then .error .zero
  else if maxCapacity < capacity then .error .tooLarge
  else .ok (new capacity policy)

/-- How many slots are taken, by items or for waiting sends. -/
def size (q : Queue α) : Nat := q.capacity - q.free

/-- Whether no slot is taken. -/
def isEmpty (q : Queue α) : Bool := q.size = 0

/-! ### Sending -/

def push (q : Queue α) (a : α) : Queue α := { q with free := q.free - 1, items := q.items ++ [a] }

/-- Sends without waiting. -/
def trySend (q : Queue α) (a : α) : Except SendError Unit × Queue α :=
  if q.closed then (.error .closed, q)
  else if q.free = 0 then (.error .full, q)
  else (.ok (), q.push a)

/-- The outcome of a send that did not wait. -/
def Sent.ofExcept : Except SendError Unit → Sent
  | .ok () => .ok
  | .error e => .failed e

/-- Sends as the policy says; under `block` the send may be left waiting. -/
def send (q : Queue α) (a : α) : Sent × Queue α :=
  match q.policy, q.trySend a with
  | .block, (.error .full, q) => (.pending, { q with waiting := q.waiting ++ [⟨a, false⟩] })
  | _, (r, q) => (.ofExcept r, q)

/-- Sends from synchronous code. `none` if the caller would wait, with the queue as it is. -/
def sendBlocking? (q : Queue α) (caller : Caller) (a : α) :
    Option (Except SendError Unit × Queue α) :=
  match q.policy, caller, q.trySend a with
  | .block, .thread, (.error .full, _) => none
  | .block, .loop, (.error .full, q) => some (.error .cannotBlock, q)
  | _, _, sent => some sent

/-- Gives a slot to the oldest waiting send that holds none; `none` if there is no such send. -/
def grant? : List (Waiter α) → Option (List (Waiter α))
  | [] => none
  | w :: ws => if w.ready then (grant? ws).map (w :: ·) else some ({ w with ready := true } :: ws)

/-- Takes back a slot. As long as the queue is open the oldest waiting send has a claim on it. -/
def release (q : Queue α) : Queue α :=
  match if q.closed then none else grant? q.waiting with
  | some waiting => { q with waiting }
  | none => { q with free := q.free + 1 }

/-- Resumes a waiting send. Its item enters if the send holds a slot of an open queue. -/
def resume (q : Queue α) (w : Waiter α) : Sent × Queue α :=
  match q.closed, w.ready with
  | true, true => (.failed .closed, { q with free := q.free + 1 })
  | true, false => (.failed .closed, q)
  | false, true => (.ok, { q with items := q.items ++ [w.item] })
  | false, false => (.pending, { q with waiting := q.waiting ++ [w] })

/-- Resumes the sends `ws` one after the other. -/
def resumeEach : List (Waiter α) → Queue α → List (α × Sent) × Queue α
  | [], q => ([], q)
  | w :: ws, q =>
    let (sent, q) := q.resume w
    let (rest, q) := resumeEach ws q
    ((w.item, sent) :: rest, q)

/-- Resumes every waiting send once, oldest first; those that go on waiting keep their order. -/
def resumeAll (q : Queue α) : List (α × Sent) × Queue α :=
  resumeEach q.waiting { q with waiting := [] }

/-! ### Receiving -/

/-- Receives the oldest item. An empty queue is finished once no producer is left, or once it is
closed and every slot is free. -/
def receive (q : Queue α) : Received α × Queue α :=
  match q.items with
  | a :: items => (.item a, release { q with items })
  | [] =>
    if q.orphaned || (q.closed && q.free == q.capacity) then (.finished, q) else (.pending, q)

/-- Receives until there is no item left inside. -/
def drain (q : Queue α) : List α × Queue α := (q.items, q.items.foldl (fun q _ => q.receive.2) q)

/-- A synchronous send beside one receipt. A send that would wait goes on after the receipt; `none`
stands for one that still waits then. -/
def exchange (q : Queue α) (caller : Caller) (a : α) :
    Option (Except SendError Unit) × Received α × Queue α :=
  match q.sendBlocking? caller a with
  | some (sent, q) => (some sent, q.receive)
  | none =>
    let (received, q) := q.receive
    match q.sendBlocking? caller a with
    | some (sent, q) => (some sent, received, q)
    | none => (none, received, q)

/-! ### The end of a queue -/

/-- Takes no further item. -/
def close (q : Queue α) : Queue α := { q with closed := true }

/-- The consumer leaves: the queue is closed and its items are lost. -/
def abandon (q : Queue α) : Queue α :=
  { q with closed := true, free := q.free + q.items.length, items := [] }

/-- The slots held by waiting sends. -/
def heldSlots (ws : List (Waiter α)) : Nat := (ws.filter (·.ready)).length

/-- The producers leave, and with them the sends that wait. -/
def orphan (q : Queue α) : Queue α :=
  { q with orphaned := true, free := q.free + heldSlots q.waiting, waiting := [] }

/-! ### What each operation does to the items -/

@[simp] theorem items_new (capacity : Nat) (policy : Policy) :
    (new capacity policy : Queue α).items = [] := rfl

@[simp] theorem items_push (q : Queue α) (a : α) : (q.push a).items = q.items ++ [a] := rfl

/-- An item that enters goes behind all others. -/
theorem items_trySend {q q' : Queue α} {a : α} (h : q.trySend a = (.ok (), q')) :
    q'.items = q.items ++ [a] := by
  unfold trySend at h
  split at h
  · simp at h
  · split at h
    · simp at h
    · simp only [Prod.mk.injEq, true_and] at h
      rw [← h, items_push]

@[simp] theorem trySend_close (q : Queue α) (a : α) :
    q.close.trySend a = (.error .closed, q.close) := rfl

@[simp] theorem items_abandon (q : Queue α) : q.abandon.items = [] := rfl

@[simp] theorem items_close (q : Queue α) : q.close.items = q.items := rfl

@[simp] theorem items_orphan (q : Queue α) : q.orphan.items = q.items := rfl

@[simp] theorem items_release (q : Queue α) : q.release.items = q.items := by
  unfold release
  split <;> rfl

/-- What is received is the oldest item, and it leaves the others as they were. -/
theorem items_receive {q q' : Queue α} {a : α} (h : q.receive = (.item a, q')) :
    q.items = a :: q'.items := by
  unfold receive at h
  split at h
  · next b items hq =>
    simp only [Prod.mk.injEq, Received.item.injEq] at h
    obtain ⟨rfl, rfl⟩ := h
    simp [hq]
  · next hq => split at h <;> simp at h

end Queue

end TrafficFeed
