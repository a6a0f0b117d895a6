import Mathlib.Data.List.Induction
import TrafficFeed.Proofs.Transport.Traced
import TrafficFeed.Transport.Script

/-!
# Delivery under scripts

How publications and attempts at a new connection end is told in advance by two scripts. Each event
is published once, in its turn, and an attempt at a new connection follows if and only if the
publication ended in a failure to send or in a break. How the attempt ends bears on nothing: what is
called, what gets through and what is counted can be read off the script of the publications.
-/

namespace TrafficFeed

open TrafficFeed.Transport

namespace Transport

/-! ### Scripts -/

namespace Script

/-- How the first `n` calls end that follow a script; those past its end succeed. -/
def ends (outcomes : List Outcome) (n : Nat) : List Outcome :=
  (List.range n).map fun i => outcomes[i]?.getD .ok

variable (outcomes : List Outcome) (n : Nat)

@[simp] lemma ends_zero : ends outcomes 0 = [] := rfl

lemma ends_succ : ends outcomes (n + 1) = ends outcomes n ++ [outcomes[n]?.getD .ok] := by
  simp [ends, List.range_succ]

@[simp] lemma length_ends : (ends outcomes n).length = n := by simp [ends]

lemma next_drop : next (outcomes.drop n) = (outcomes[n]?.getD .ok, outcomes.drop (n + 1)) := by
  by_cases h : n < outcomes.length
  · rw [List.drop_eq_getElem_cons h]
    simp [next, h]
  · simp only [Nat.not_lt] at h
    simp [List.drop_eq_nil_of_le h, List.drop_eq_nil_of_le (Nat.le_succ_of_le h), next, h]

end Script

/-! ### Calls -/

namespace Call

/-- A call without the end of an attempt at a new connection: it passes for a success. -/
def blind : Call → Call
  | .rebuild _ => .rebuild .ok
  | c => c

/-- How an attempt at a new connection ended. -/
def rebuildEnd? : Call → Option Outcome
  | .rebuild outcome => some outcome
  | _ => none

/-- The calls for one event whose publication ends in a given way: the publication, and an attempt
at a new connection after a failure to send or a break. -/
def attempts (attempt : Event × Outcome) : List Call :=
  .publish attempt.1.payload attempt.2 :: if attempt.2.breaks then [.rebuild .ok] else []

end Call

end Transport

namespace Delivery

/-- The counts after publications that have ended in these ways. -/
def count (m : Metrics) (ends : List Outcome) : Metrics :=
  { m with
    published := m.published + UInt64.ofNat (ends.count .ok)
    failures := m.failures + UInt64.ofNat (ends.countP (· ≠ .ok))
    rebuilds := m.rebuilds + UInt64.ofNat (ends.countP Outcome.breaks) }

lemma tally_count (m : Metrics) (ends : List Outcome) (outcome : Outcome) :
    tally outcome (count m ends) = count m (ends ++ [outcome]) := by
  cases outcome with
  | ok => simp [tally, count, Metrics.count, Metrics.add, UInt64.ofNat_add, UInt64.add_assoc]
  | failed e =>
    cases h : e.isSendFailure <;>
      simp [tally, count, Metrics.count, Metrics.add, UInt64.ofNat_add, UInt64.add_assoc, h]
  | broken => simp [tally, count, Metrics.count, Metrics.add, UInt64.ofNat_add, UInt64.add_assoc]

/-- The events `es` have been delivered under two scripts, and `m` had been counted before. -/
structure Followed (outcomes renewals : List Outcome) (m : Metrics) (es : List Event)
    (s : State (Script × List Call)) : Prop where
  publishes : s.connection.1.publishes = outcomes.drop es.length
  rebuilds : s.connection.1.rebuilds =
    renewals.drop ((Script.ends outcomes es.length).countP Outcome.breaks)
  published : s.connection.1.published.reverse =
    ((es.zip (Script.ends outcomes es.length)).filter (·.2 = .ok)).map (·.1.payload)
  payloads : s.connection.2.filterMap Call.payload? = es.map Event.payload
  calls : s.connection.2.map Call.blind =
    (es.zip (Script.ends outcomes es.length)).flatMap Call.attempts
  renewed : s.connection.2.filterMap Call.rebuildEnd? =
    Script.ends renewals ((Script.ends outcomes es.length).countP Outcome.breaks)
  metrics : s.metrics = count m (Script.ends outcomes es.length)

variable {outcomes renewals : List Outcome} {m : Metrics} {es : List Event}
  {s : State (Script × List Call)}

lemma Followed.new (outcomes renewals : List Outcome) (m : Metrics) :
    Followed outcomes renewals m [] ⟨(.new outcomes renewals, []), m⟩ := by
  constructor <;> simp [Script.new, count]

/-- What an event takes from the scripts, and what is written down of it. -/
lemma deliver_script (e : Event) (s : State (Script × List Call)) {outcome renewal : Outcome}
    {outcomes renewals : List Outcome}
    (hnext : Script.next s.connection.1.publishes = (outcome, outcomes))
    (hrenewal : Script.next s.connection.1.rebuilds = (renewal, renewals)) :
    (deliver Script.transport.traced e s).2.2 =
      ⟨({ s.connection.1 with
          publishes := outcomes
          rebuilds := if outcome.breaks then renewals else s.connection.1.rebuilds
          published := if outcome = .ok then e.payload :: s.connection.1.published
            else s.connection.1.published
          rebuildCalls := s.connection.1.rebuildCalls + if outcome.breaks then 1 else 0 },
        s.connection.2 ++ .publish e.payload outcome ::
          if outcome.breaks then [.rebuild renewal] else []),
        tally outcome s.metrics⟩ := by
  rw [deliver_state]
  simp only [traced, Script.transport, hnext, hrenewal]
  cases outcome.breaks <;> simp

/-- One more event: one publication, and an attempt at a new connection if that broke. -/
lemma Followed.deliver (h : Followed outcomes renewals m es s) (e : Event) :
    Followed outcomes renewals m (es ++ [e])
      (Delivery.deliver Script.transport.traced e s).2.2 := by
  have hnext := Script.next_drop outcomes es.length
  have hrenewal := Script.next_drop renewals
    ((Script.ends outcomes es.length).countP Outcome.breaks)
  have hends : Script.ends outcomes (es ++ [e]).length =
      Script.ends outcomes es.length ++ [outcomes[es.length]?.getD .ok] := by
    rw [List.length_append, List.length_singleton, Script.ends_succ]
  rw [← h.publishes] at hnext
  rw [← h.rebuilds] at hrenewal
  rw [deliver_script e s hnext hrenewal]
  revert hends
  generalize outcomes[es.length]?.getD .ok = outcome
  intro hends
  have hzip : (es ++ [e]).zip (Script.ends outcomes es.length ++ [outcome]) =
      es.zip (Script.ends outcomes es.length) ++ [(e, outcome)] := by
    rw [List.zip_append (by simp)]
    rfl
  constructor
  case publishes => rw [List.length_append, List.length_singleton]
  case rebuilds =>
    rw [hends]
    cases hb : outcome.breaks <;> simp [hb, h.rebuilds]
  case published =>
    rw [hends, hzip]
    by_cases hok : outcome = .ok <;> simp [hok, h.published]
  case payloads =>
    cases outcome.breaks <;> simp [h.payloads, List.filterMap_cons, Call.payload?]
  case calls =>
    rw [hends, hzip]
    cases hb : outcome.breaks <;> simp [hb, h.calls, Call.attempts, Call.blind]
  case renewed =>
    rw [hends]
    cases hb : outcome.breaks <;>
      simp [hb, h.renewed, Script.ends_succ, List.filterMap_cons, Call.rebuildEnd?]
  case metrics => rw [h.metrics, tally_count, hends]

lemma Followed.deliverAll (outcomes renewals : List Outcome) (m : Metrics) (es : List Event) :
    Followed outcomes renewals m es (Delivery.deliverAll Script.transport.traced es
      ⟨(.new outcomes renewals, []), m⟩).2 := by
  induction es using List.reverseRecOn with
  | nil => exact .new outcomes renewals m
  | append_singleton es e ih =>
    rw [deliverAll_append]
    exact ih.deliver e

/-- The delivery of any events under any two scripts. -/
theorem run_script (outcomes renewals : List Outcome) (m : Metrics) (es : List Event) :
    let s := (run Script.transport.traced es ⟨(.new outcomes renewals, []), m⟩).2
    let ends := Script.ends outcomes es.length
    s.connection.2.filterMap Call.payload? = es.map Event.payload ∧
      s.connection.1.published.reverse =
        ((es.zip ends).filter (·.2 = .ok)).map (·.1.payload) ∧
      s.connection.2.map Call.blind = (es.zip ends).flatMap Call.attempts ++ [.close] ∧
      s.connection.2.filterMap Call.rebuildEnd? =
        Script.ends renewals (ends.countP Outcome.breaks) ∧
      s.metrics = { m with
        published := m.published + UInt64.ofNat (ends.count .ok)
        failures := m.failures + UInt64.ofNat (ends.countP (· ≠ .ok))
        rebuilds := m.rebuilds + UInt64.ofNat (ends.countP Outcome.breaks) } := by
  intro s ends
  have h := Followed.deliverAll outcomes renewals m es
  let before := (deliverAll Script.transport.traced es ⟨(.new outcomes renewals, []), m⟩).2
  have hs : s = { before with
      connection := ({ before.connection.1 with closed := true },
        before.connection.2 ++ [.close]) } := rfl
  rw [hs]
  refine ⟨?_, h.published, ?_, ?_, h.metrics⟩
  · simp [before, h.payloads, Call.payload?]
  · simp [before, h.calls, ends, Call.blind]
  · simp [before, h.renewed, ends, Call.rebuildEnd?]

end Delivery

end TrafficFeed
