import Mathlib.Tactic.Lemma
import TrafficFeed.Delivery

/-!
# Traced transports

A transport that also writes down each call of its operations. What happens to the connection and
to the counts is the same with and without the record, so what is said of the calls of a traced
transport is said of the transport, whatever it is.

The delivery of one event is one publication, and one attempt at a new connection after it if the
publication ended in a failure to send or in a break.
-/

namespace TrafficFeed

variable {σ : Type}

namespace Transport

/-- A call of an operation, with its end. -/
inductive Call where
  | publish (payload : String) (outcome : Outcome)
  | rebuild (outcome : Outcome)
  | close
  deriving DecidableEq, Repr

/-- The transport `t` with a record of the calls so far, the oldest first. -/
def traced (t : Transport σ) : Transport (σ × List Call) where
  publish payload c :=
    let (outcome, connection) := t.publish payload c.1
    (outcome, connection, c.2 ++ [.publish payload outcome])
  rebuild c :=
    let (outcome, connection) := t.rebuild c.1
    (outcome, connection, c.2 ++ [.rebuild outcome])
  close c := (t.close c.1, c.2 ++ [.close])
  describe c := t.describe c.1

/-- Whether a publication that ends so asks for a new connection. -/
def Outcome.breaks : Outcome → Bool
  | .failed (.send _) | .failed .closed | .broken => true
  | .ok | .failed _ => false

@[simp] lemma Outcome.breaks_ok : ok.breaks = false := rfl

@[simp] lemma Outcome.breaks_failed (e : TransportError) :
    (failed e).breaks = e.isSendFailure := by
  cases e <;> rfl

@[simp] lemma Outcome.breaks_broken : broken.breaks = true := rfl

namespace Call

/-- The text handed to a publication. -/
def payload? : Call → Option String
  | .publish payload _ => some payload
  | _ => none

def publishes : Call → Bool
  | .publish _ outcome => outcome = .ok
  | _ => false

/-- Whether a call is a publication that did not succeed. -/
def loses : Call → Bool
  | .publish _ outcome => outcome ≠ .ok
  | _ => false

/-- Whether a call is a publication after which a new connection is asked for. -/
def breaks : Call → Bool
  | .publish _ outcome => outcome.breaks
  | _ => false

/-- Whether a call bears on a counter. -/
def bears : Counter → Call → Bool
  | .published => publishes
  | .failures => loses
  | .rebuilds => breaks
  | _ => fun _ => false

end Call

end Transport

lemma Metrics.get_count (m : Metrics) (c d : Counter) :
    (m.count c).get d = m.get d + if d = c then 1 else 0 := by
  by_cases h : d = c
  · rw [if_pos h, h]
    exact Metrics.get_add_self m c 1
  · rw [if_neg h, UInt64.add_zero]
    exact Metrics.get_add_of_ne h m 1

namespace Delivery

open Transport

def tally (outcome : Outcome) (m : Metrics) : Metrics :=
  if outcome = .ok then m.count .published
  else if outcome.breaks then (m.count .failures).count .rebuilds
  else m.count .failures

/-- The end of a publication is counted where its call bears. -/
lemma get_tally (payload : String) (outcome : Outcome) (m : Metrics) (c : Counter) :
    (tally outcome m).get c =
      m.get c + if (Call.publish payload outcome).bears c then 1 else 0 := by
  unfold tally
  cases outcome with
  | ok => cases c <;> simp [Metrics.get_count, Call.bears, Call.publishes, Call.loses, Call.breaks]
  | failed e =>
    cases h : e.isSendFailure <;> cases c <;>
      simp [Metrics.get_count, Call.bears, Call.publishes, Call.loses, Call.breaks, h]
  | broken =>
    cases c <;> simp [Metrics.get_count, Call.bears, Call.publishes, Call.loses, Call.breaks]

/-- What is left of a connection after a publication, and the new one after a break. -/
lemma deliver_state (t : Transport σ) (e : Event) (s : State σ) :
    (deliver t e s).2.2 =
      ⟨if (t.publish e.payload s.connection).1.breaks
        then (t.rebuild (t.publish e.payload s.connection).2).2
        else (t.publish e.payload s.connection).2,
        tally (t.publish e.payload s.connection).1 s.metrics⟩ := by
  unfold deliver
  cases h : (t.publish e.payload s.connection).1 with
  | ok => simp [h, tally]
  | failed error =>
    cases hs : error.isSendFailure <;> simp [h, hs, tally, fail, rebuild]
  | broken => simp [h, tally, fail, rebuild]

/-- The record changes neither the connection nor the counts. -/
lemma deliver_traced (t : Transport σ) (e : Event) (s : State (σ × List Call)) :
    (deliver t e ⟨s.connection.1, s.metrics⟩).2.2 =
      ⟨(deliver t.traced e s).2.2.connection.1, (deliver t.traced e s).2.2.metrics⟩ := by
  simp only [deliver_state, traced]
  split <;> rfl

/-- The delivery of an event is one publication of its payload, whose end is counted, and at most a
new connection after it. -/
lemma calls_deliver (t : Transport σ) (e : Event) (s : State (σ × List Call)) :
    ∃ outcome rest, (∀ c ∈ rest, ∃ o, c = Call.rebuild o) ∧
      (deliver t.traced e s).2.2.connection.2 =
        s.connection.2 ++ .publish e.payload outcome :: rest ∧
      (deliver t.traced e s).2.2.metrics = tally outcome s.metrics := by
  simp only [deliver_state, traced]
  refine ⟨(t.publish e.payload s.connection.1).1, ?_⟩
  split
  · refine ⟨[.rebuild (t.rebuild (t.publish e.payload s.connection.1).2).1], ?_, ?_, rfl⟩
    · intro c hc
      exact ⟨_, List.mem_singleton.mp hc⟩
    · simp
  · exact ⟨[], by simp, rfl, rfl⟩

end Delivery

end TrafficFeed
