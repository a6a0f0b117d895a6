/-!
# Metrics

What a pipeline counts: seven counters, which only grow and wrap at 64 bits, and one gauge, the
number of requests that wait for their response.
-/

namespace TrafficFeed

inductive Counter where
  | enqueued
  | dropped
  | published
  | failures
  | rebuilds
  | evictions
  | misses
  deriving DecidableEq, Repr

/-- The counts of a pipeline. -/
structure Metrics where
  enqueued : UInt64
  dropped : UInt64
  published : UInt64
  failures : UInt64
  rebuilds : UInt64
  evictions : UInt64
  misses : UInt64
  entries : Int64
  deriving DecidableEq, Repr

namespace Metrics

def zero : Metrics := ⟨0, 0, 0, 0, 0, 0, 0, 0⟩

def get (m : Metrics) : Counter → UInt64
  | .enqueued => m.enqueued
  | .dropped => m.dropped
  | .published => m.published
  | .failures => m.failures
  | .rebuilds => m.rebuilds
  | .evictions => m.evictions
  | .misses => m.misses

def add (m : Metrics) (c : Counter) (n : UInt64) : Metrics :=
  match c with
  | .enqueued => { m with enqueued := m.enqueued + n }
  | .dropped => { m with dropped := m.dropped + n }
  | .published => { m with published := m.published + n }
  | .failures => { m with failures := m.failures + n }
  | .rebuilds => { m with rebuilds := m.rebuilds + n }
  | .evictions => { m with evictions := m.evictions + n }
  | .misses => { m with misses := m.misses + n }

def count (m : Metrics) (c : Counter) : Metrics := m.add c 1

/-- Sets the gauge. -/
def setEntries (m : Metrics) (n : Int64) : Metrics := { m with entries := n }

@[simp] theorem get_zero (c : Counter) : zero.get c = 0 := by cases c <;> rfl

@[simp] theorem get_add_self (m : Metrics) (c : Counter) (n : UInt64) :
    (m.add c n).get c = m.get c + n := by cases c <;> rfl

theorem get_add_of_ne {c d : Counter} (h : d ≠ c) (m : Metrics) (n : UInt64) :
    (m.add c n).get d = m.get d := by
  cases c <;> cases d <;> simp_all [add, get]

@[simp] theorem get_setEntries (m : Metrics) (n : Int64) (c : Counter) :
    (m.setEntries n).get c = m.get c := by cases c <;> rfl

@[simp] theorem entries_add (m : Metrics) (c : Counter) (n : UInt64) :
    (m.add c n).entries = m.entries := by cases c <;> rfl

@[simp] theorem entries_setEntries (m : Metrics) (n : Int64) : (m.setEntries n).entries = n := rfl

end Metrics

end TrafficFeed
