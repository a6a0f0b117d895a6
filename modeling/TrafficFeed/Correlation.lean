import TrafficFeed.Event
import TrafficFeed.Log

/-!
# Requests that wait for their response

A captured request is kept under the identity of its flow until the response is captured. One that
waits for as long as the time to live, or longer, is stale and leaves with the next sweep. A store
that takes the number of entries above a threshold sweeps at once. The threshold is the limit; as
long as a sweep leaves more entries than that, it is twice what the sweep left, so that a store full
of live entries is not searched each time.
-/

namespace TrafficFeed

/-- A request that waits, since the moment `since` in nanoseconds. -/
structure Waiting where
  id : FlowId
  request : CapturedRequest
  since : Nat
  deriving DecidableEq, Repr

/-- The requests that wait. -/
structure Correlation where
  /-- How long a request may wait, in nanoseconds. -/
  ttl : Nat
  limit : Nat
  threshold : Nat
  entries : List Waiting
  /-- How many have been evicted so far. -/
  evicted : UInt64
  deriving DecidableEq, Repr

namespace Correlation

def new (ttl limit : Nat) : Correlation := ⟨ttl, limit, limit, [], 0⟩

def size (c : Correlation) : Nat := c.entries.length

def isEmpty (c : Correlation) : Bool := c.entries.isEmpty

def get? (c : Correlation) (id : FlowId) : Option CapturedRequest :=
  (c.entries.find? fun w => w.id = id).map (·.request)

/-- Whether an entry has waited for less than the time to live at the moment `now`. -/
def fresh (ttl now : Nat) (w : Waiting) : Bool := now - w.since < ttl

/-- The largest size that can be told apart. -/
def maxSize : Nat := UInt64.size - 1

/-- The threshold after a sweep that left `remaining` entries. -/
def nextThreshold (limit remaining : Nat) : Nat :=
  if limit < remaining then min (2 * remaining) maxSize else limit

/-- How many entries are stale at the moment `now`. -/
def staleCount (c : Correlation) (now : Nat) : Nat :=
  (c.entries.filter fun w => !fresh c.ttl now w).length

/-- Removes the stale entries. -/
def sweep (c : Correlation) (now : Nat) : Nat × Correlation :=
  let kept := c.entries.filter (fresh c.ttl now)
  let gone := c.staleCount now
  (gone, { c with
    entries := kept
    threshold := nextThreshold c.limit kept.length
    evicted := c.evicted + UInt64.ofNat gone })

/-- Keeps a request under an identity in place of any that was there; its wait begins anew. -/
def put (c : Correlation) (id : FlowId) (request : CapturedRequest) (now : Nat) : Correlation :=
  { c with entries := ⟨id, request, now⟩ :: c.entries.filter fun w => w.id ≠ id }

/-- Keeps a request and sweeps if there are now more entries than the threshold. Tells how many
were evicted. -/
def store (c : Correlation) (id : FlowId) (request : CapturedRequest) (now : Nat) :
    Nat × Correlation :=
  let c := c.put id request now
  if c.threshold < c.size then c.sweep now else (0, c)

/-- Removes the request under an identity and returns it. -/
def take (c : Correlation) (id : FlowId) : Option CapturedRequest × Correlation :=
  (c.get? id, { c with entries := c.entries.filter fun w => w.id ≠ id })

/-- What is said of an eviction; nothing if none took place. -/
def evictionLog (evicted : Nat) (c : Correlation) : List Log.Entry :=
  if evicted = 0 then []
  else [⟨.correlation, .debug, "Evicted stale correlation entries",
    [("evicted", toString evicted), ("remaining", toString c.size)]⟩]

/-! ### What each operation does to the entries -/

@[simp] theorem entries_new (ttl limit : Nat) : (new ttl limit).entries = [] := rfl

@[simp] theorem entries_put (c : Correlation) (id : FlowId) (request : CapturedRequest)
    (now : Nat) : (c.put id request now).entries =
      ⟨id, request, now⟩ :: c.entries.filter fun w => w.id ≠ id := rfl

@[simp] theorem entries_sweep (c : Correlation) (now : Nat) :
    (c.sweep now).2.entries = c.entries.filter (fresh c.ttl now) := rfl

@[simp] theorem entries_take (c : Correlation) (id : FlowId) :
    (c.take id).2.entries = c.entries.filter fun w => w.id ≠ id := rfl

@[simp] theorem get?_new (ttl limit : Nat) (id : FlowId) : (new ttl limit).get? id = none := rfl

@[simp] theorem get?_put_self (c : Correlation) (id : FlowId) (request : CapturedRequest)
    (now : Nat) : (c.put id request now).get? id = some request := by
  simp [get?, put]

theorem get?_put_of_ne (c : Correlation) {id other : FlowId} (request : CapturedRequest)
    (now : Nat) (h : other ≠ id) : (c.put id request now).get? other = c.get? other := by
  simp only [get?, entries_put, List.find?_cons, List.find?_filter]
  have : decide (id = other) = false := by simp [h.symm]
  simp only [this]
  congr 2
  funext w
  grind

@[simp] theorem get?_take_self (c : Correlation) (id : FlowId) :
    (c.take id).2.get? id = none := by
  simp [get?, take]

theorem size_put_le (c : Correlation) (id : FlowId) (request : CapturedRequest) (now : Nat) :
    (c.put id request now).size ≤ c.size + 1 := by
  simpa [size] using List.length_filter_le _ _

/-- A sweep neither loses nor invents an entry: what it keeps and what it evicts are all there
was. -/
theorem sweep_count (c : Correlation) (now : Nat) :
    (c.sweep now).2.size + (c.sweep now).1 = c.size := by
  simp only [sweep, size, staleCount]
  induction c.entries with
  | nil => rfl
  | cons w ws ih => cases h : fresh c.ttl now w <;> simp [h] <;> omega

end Correlation

end TrafficFeed
