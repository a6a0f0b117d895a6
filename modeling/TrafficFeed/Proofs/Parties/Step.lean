import Mathlib.Data.List.Induction
import TrafficFeed.Proofs.Parties.Basic

/-!
# What a step can do

A step of a party is one of a dozen things, and `Turned` says of each under which condition it
happens and what it leaves behind. Each invariant of a run is then a case analysis of `Turned`.
-/

namespace TrafficFeed

open TrafficFeed.Pipeline

variable {σ : Type}

/-- How an offer is counted. -/
def Pipeline.offerCounter : Except Queue.SendError Unit → Counter
  | .ok _ => .enqueued
  | .error _ => .dropped

lemma Pipeline.recordOffer_eq (p : Pipeline σ) (label : String) (r : Except Queue.SendError Unit) :
    (p.recordOffer label r).2 = p.mapMetrics (·.count (offerCounter r)) := by
  rcases r with e | _
  · cases e <;> rfl
  · rfl

section

variable (p : Pipeline σ) (f : Metrics → Metrics)

@[simp] lemma Pipeline.transport_mapMetrics : (p.mapMetrics f).transport = p.transport := rfl

@[simp] lemma Pipeline.schema_mapMetrics : (p.mapMetrics f).schema = p.schema := rfl

@[simp] lemma Pipeline.queue_mapMetrics : (p.mapMetrics f).queue = p.queue := rfl

@[simp] lemma Pipeline.cache_mapMetrics : (p.mapMetrics f).cache = p.cache := rfl

@[simp] lemma Pipeline.worker_mapMetrics : (p.mapMetrics f).worker = p.worker := rfl

@[simp] lemma Pipeline.connection_mapMetrics :
    (p.mapMetrics f).delivery.connection = p.delivery.connection := rfl

@[simp] lemma Pipeline.metrics_mapMetrics :
    (p.mapMetrics f).delivery.metrics = f p.delivery.metrics := rfl

end

namespace Parties

/-! ### Small operations -/

section

variable (s : Parties σ) (p : Producer) (r : Except Queue.SendError Unit) (q : Queue Event)

@[simp] lemma pipeline_withQueue :
    (s.withQueue q).pipeline = { s.pipeline with queue := q } := rfl

@[simp] lemma held_withQueue : (s.withQueue q).held = s.held := rfl

@[simp] lemma cancelled_withQueue : (s.withQueue q).cancelled = s.cancelled := rfl

@[simp] lemma active_withQueue : (s.withQueue q).active = s.active := rfl

@[simp] lemma parked_withQueue : (s.withQueue q).parked = s.parked := rfl

@[simp] lemma born_withQueue : (s.withQueue q).born = s.born := rfl

@[simp] lemma history_withQueue : (s.withQueue q).history = s.history := rfl

@[simp] lemma pipeline_record : (s.record p r).pipeline =
    s.pipeline.mapMetrics (·.count (offerCounter r)) := by
  simp [record, recordOffer_eq]

@[simp] lemma held_record : (s.record p r).held = s.held := rfl

@[simp] lemma cancelled_record : (s.record p r).cancelled = s.cancelled := rfl

@[simp] lemma active_record : (s.record p r).active = s.active ++ p.rest?.toList := rfl

@[simp] lemma parked_record : (s.record p r).parked = s.parked := rfl

@[simp] lemma born_record : (s.record p r).born = s.born := rfl

@[simp] lemma history_record :
    (s.record p r).history = s.history ++ [.sent p.name p.next r] := rfl

end

/-! ### Steps -/

/-- All that a step of a party can do. -/
inductive Turned (s : Parties σ) : Parties σ → Prop where
  | nothing : Turned s s
  /-- An event enters the queue at once. -/
  | enters (i : Nat) (p : Producer) (hp : s.active[i]? = some p) (hopen : s.queue.closed = false)
      (hfree : s.queue.free ≠ 0) :
      Turned s (({ s with active := s.active.eraseIdx i }.withQueue
        (s.queue.push p.next)).record p (.ok ()))
  /-- An event is refused. -/
  | refused (i : Nat) (p : Producer) (e : Queue.SendError) (hp : s.active[i]? = some p)
      (he : Queue.Entry s.queue p.way p.next (.failed e) s.queue) :
      Turned s ({ s with active := s.active.eraseIdx i }.record p (.error e))
  /-- A send has to wait. -/
  | parks (i : Nat) (p : Producer) (hp : s.active[i]? = some p) (hopen : s.queue.closed = false)
      (hfree : s.queue.free = 0) :
      Turned s ({ s with
        active := s.active.eraseIdx i
        parked := s.parked ++ [p] }.withQueue
          { s.queue with waiting := s.queue.waiting ++ [Queue.Waiter.mk p.next false] })
  /-- The event of a send that has waited enters the queue. -/
  | resumes (i : Nat) (p : Producer) (w : Queue.Waiter Event) (hp : s.parked[i]? = some p)
      (hw : s.queue.waiting[i]? = some w) (hopen : s.queue.closed = false)
      (hready : w.ready = true) :
      Turned s (({ s with parked := s.parked.eraseIdx i }.withQueue { s.queue with
          waiting := s.queue.waiting.eraseIdx i
          items := s.queue.items ++ [w.item] }).record p (.ok ()))
  /-- A send has waited in vain. -/
  | fails (i : Nat) (p : Producer) (w : Queue.Waiter Event) (hp : s.parked[i]? = some p)
      (hw : s.queue.waiting[i]? = some w) (hclosed : s.queue.closed = true) :
      Turned s (({ s with parked := s.parked.eraseIdx i }.withQueue { s.queue with
          waiting := s.queue.waiting.eraseIdx i
          free := s.queue.free + if w.ready then 1 else 0 }).record p (.error .closed))
  | cancels : Turned s s.cancel
  | wakes (h : s.pipeline.worker = .idle) :
      Turned s { s with pipeline := { s.pipeline with worker := .running } }
  /-- The worker receives the oldest event. -/
  | receives (e : Event) (items : List Event) (h : s.choosing)
      (hitems : s.queue.items = e :: items) :
      Turned s { s.withQueue (Queue.release { s.queue with items }) with held := some e }
  /-- The worker sees that there will be no event any more. -/
  | stops (h : s.choosing) (hitems : s.queue.items = [])
      (hover : s.queue.orphaned = true ∨ s.queue.closed = true ∧ s.queue.free = s.queue.capacity) :
      Turned s s.stop
  /-- The worker closes the queue. -/
  | closes (h : s.choosing) (hc : s.cancelled = true) : Turned s (s.withQueue s.queue.close)
  /-- The worker delivers what it holds. -/
  | delivers (e : Event) (h : s.held = some e) :
      Turned s { s with
        held := none
        pipeline := { s.pipeline with
          delivery := (Delivery.deliver s.pipeline.transport e s.pipeline.delivery).2.2 } }

lemma Turned.of_offer (s : Parties σ) (i : Nat) : Turned s (s.offer i) := by
  unfold offer
  cases hp : s.active[i]? with
  | none => exact .nothing
  | some p =>
    have he := Queue.Entry.of_enter s.queue p.way p.next
    simp only
    revert he
    generalize s.queue.enter p.way p.next = res
    obtain ⟨sent, queue⟩ := res
    intro he
    cases he with
    | closed h => exact .refused i p _ hp (.closed h)
    | enters h hfree => exact .enters i p hp h hfree
    | full h hfree hway => exact .refused i p _ hp (.full h hfree hway)
    | stuck h hfree hpolicy hway => exact .refused i p _ hp (.stuck h hfree hpolicy hway)
    | waits h hfree => exact .parks i p hp h hfree

lemma Turned.of_resume (s : Parties σ) (i : Nat) : Turned s (s.resume i) := by
  unfold resume
  have hpoll := Queue.Poll.of_poll s.queue i
  revert hpoll
  generalize s.queue.poll i = res
  obtain ⟨sent, queue⟩ := res
  intro hpoll
  cases hp : s.parked[i]? with
  | none => exact .nothing
  | some p =>
    cases hpoll with
    | pending => exact .nothing
    | enters w hw h hready => exact .resumes i p w hp hw h hready
    | fails w hw h => exact .fails i p w hp hw h

lemma Turned.of_wake (s : Parties σ) : Turned s s.wake := by
  unfold wake Pipeline.wake
  cases h : s.pipeline.worker with
  | idle => exact .wakes h
  | running | stopped => exact .nothing

lemma Turned.of_receive (s : Parties σ) : Turned s s.receive := by
  unfold receive
  split
  · next h =>
    have hr := Queue.Receipt.of_receive s.queue
    revert hr
    generalize s.queue.receive = res
    obtain ⟨received, queue⟩ := res
    intro hr
    cases hr with
    | item e items hitems => exact .receives e items h hitems
    | pending => exact .nothing
    | finished hitems hover => exact .stops h hitems hover
  · exact .nothing

lemma Turned.of_close (s : Parties σ) : Turned s s.close := by
  unfold close
  split
  · next h => exact .closes h.1 h.2
  · exact .nothing

lemma Turned.of_deliver (s : Parties σ) : Turned s s.deliver := by
  unfold deliver
  cases h : s.held with
  | none => exact .nothing
  | some e => exact .delivers e h

lemma Turned.of_turn (s : Parties σ) (t : Turn) : Turned s (s.turn t) := by
  cases t with
  | offer i => exact .of_offer s i
  | resume i => exact .of_resume s i
  | cancel => exact .cancels
  | wake => exact .of_wake s
  | receive => exact .of_receive s
  | close => exact .of_close s
  | deliver => exact .of_deliver s

/-- No step turns to the requests that wait. -/
lemma Turned.cache_eq {s s' : Parties σ} (h : Turned s s') :
    s'.pipeline.schema = s.pipeline.schema ∧ s'.pipeline.cache = s.pipeline.cache := by
  cases h <;> simp [cancel, stop]

/-- No step brings a new producer, and none changes the policy of the queue or opens it again. -/
lemma Turned.born_eq {s s' : Parties σ} (h : Turned s s') :
    s'.born = s.born ∧ s'.queue.policy = s.queue.policy ∧
      (s.queue.closed = true → s'.queue.closed = true) := by
  cases h <;> simp_all [Queue.push, Queue.close, cancel, stop]

/-! ### Runs -/

@[simp] lemma run_nil (s : Parties σ) : s.run [] = s := rfl

lemma run_append (s : Parties σ) (moves more : List Move) :
    s.run (moves ++ more) = (s.run moves).run more := by
  simp [run]

/-- What every producer that comes, every step and the departure of the producers keep, every run
keeps. -/
lemma run_induction {P : Parties σ → Prop} {s : Parties σ} (hs : P s)
    (hjoin : ∀ s way events, P s → s.queue.orphaned = false → P (s.join way events))
    (hleave : ∀ s, P s → P s.leave)
    (hturn : ∀ s s', P s → Turned s s' → P s') (moves : List Move) : P (s.run moves) := by
  induction moves using List.reverseRecOn with
  | nil => exact hs
  | append_singleton moves m ih =>
    rw [run_append]
    change P ((s.run moves).move m)
    cases m with
    | join way events =>
      simp only [move]
      split
      · exact ih
      · next h => exact hjoin _ way events ih (by simpa using h)
    | leave => exact hleave _ ih
    | turn t => exact hturn _ _ ih (.of_turn _ t)

end Parties

end TrafficFeed
