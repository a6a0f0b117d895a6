import TrafficFeed.Proofs.Parties.Capture

/-!
# The record of the calls

A traced transport behaves as the transport that it records: to leave out the record and to act
comes to the same as to act and to leave out the record. So what is proved of the calls of a run
is proved of every run, whether it is recorded or not.
-/

namespace TrafficFeed

open TrafficFeed.Pipeline TrafficFeed.Transport

variable {σ : Type}

/-- A pipeline without the record of the calls. -/
def Pipeline.untraced (t : Transport σ) (p : Pipeline (σ × List Call)) : Pipeline σ :=
  { transport := t
    schema := p.schema
    queue := p.queue
    cache := p.cache
    delivery := ⟨p.delivery.connection.1, p.delivery.metrics⟩
    worker := p.worker
    sweepInterval := p.sweepInterval
    clock := p.clock
    nextSweep := p.nextSweep }

lemma Pipeline.untraced_eventsOf (t : Transport σ) (p : Pipeline (σ × List Call))
    (side : Direction) (flow : Flow) (moment : Moment) :
    ((p.untraced t).eventsOf side flow moment).1 = (p.eventsOf side flow moment).1 ∧
      ((p.untraced t).eventsOf side flow moment).2.2 =
        (p.eventsOf side flow moment).2.2.untraced t := by
  obtain ⟨transport, schema, queue, cache, delivery, worker, interval, clock, next⟩ := p
  cases side with
  | request => cases schema <;> exact ⟨rfl, rfl⟩
  | response =>
    simp only [eventsOf, responseEvents, untraced]
    cases flow.response with
    | none => exact ⟨rfl, rfl⟩
    | some response =>
      cases schema with
      | plain => exact ⟨rfl, rfl⟩
      | enriched =>
        simp only [Correlation.take]
        cases cache.get? flow.id <;> exact ⟨trivial, rfl⟩

namespace Parties

/-- The parties without the record of the calls. -/
def untraced (t : Transport σ) (s : Parties (σ × List Call)) : Parties σ :=
  { pipeline := s.pipeline.untraced t
    held := s.held
    cancelled := s.cancelled
    active := s.active
    parked := s.parked
    born := s.born
    history := s.history }

variable {t : Transport σ} {s : Parties (σ × List Call)}

/-! ### Steps -/

lemma untraced_conclude (t : Transport σ) (s : Parties (σ × List Call)) (p : Producer)
    (sent : Queue.Sent) : (s.untraced t).conclude p sent = (s.conclude p sent).untraced t := by
  cases sent with
  | ok => rfl
  | failed e => cases e <;> rfl
  | pending => rfl

lemma untraced_offer (t : Transport σ) (s : Parties (σ × List Call)) (i : Nat) :
    (s.untraced t).offer i = (s.offer i).untraced t := by
  unfold offer
  have hactive : (s.untraced t).active[i]? = s.active[i]? := rfl
  rw [hactive]
  cases s.active[i]? with
  | none => rfl
  | some p =>
    exact untraced_conclude t ({ s with active := s.active.eraseIdx i }.withQueue
      (s.queue.enter p.way p.next).2) p (s.queue.enter p.way p.next).1

lemma untraced_resume (t : Transport σ) (s : Parties (σ × List Call)) (i : Nat) :
    (s.untraced t).resume i = (s.resume i).untraced t := by
  unfold resume
  have hparked : (s.untraced t).parked[i]? = s.parked[i]? := rfl
  have hqueue : (s.untraced t).queue = s.queue := rfl
  rw [hparked, hqueue]
  cases s.parked[i]? with
  | none => rfl
  | some p =>
    rcases s.queue.poll i with ⟨sent, queue⟩
    cases sent with
    | ok => rfl
    | failed e => cases e <;> rfl
    | pending => rfl

lemma untraced_wake (t : Transport σ) (s : Parties (σ × List Call)) :
    (s.untraced t).wake = s.wake.untraced t := by
  unfold wake Pipeline.wake
  have hworker : (s.untraced t).pipeline.worker = s.pipeline.worker := rfl
  rw [hworker]
  cases s.pipeline.worker <;> rfl

lemma untraced_stop (h : s.pipeline.transport = t.traced) :
    (s.untraced t).stop = s.stop.untraced t := by
  unfold stop Delivery.stop
  rw [h]
  rfl

lemma untraced_receive (h : s.pipeline.transport = t.traced) :
    (s.untraced t).receive = s.receive.untraced t := by
  have hqueue : (s.untraced t).queue = s.queue := rfl
  have hchoosing : (s.untraced t).choosing ↔ s.choosing := Iff.rfl
  unfold receive
  rw [hqueue]
  by_cases hc : s.choosing
  · rw [if_pos hc, if_pos (hchoosing.mpr hc)]
    rcases s.queue.receive with ⟨received, queue⟩
    cases received with
    | item e => rfl
    | pending => rfl
    | finished => exact untraced_stop h
  · rw [if_neg hc, if_neg fun hc' => hc (hchoosing.mp hc')]

lemma untraced_close (t : Transport σ) (s : Parties (σ × List Call)) :
    (s.untraced t).close = s.close.untraced t := by
  have hiff : (s.untraced t).choosing ∧ (s.untraced t).cancelled ↔ s.choosing ∧ s.cancelled :=
    Iff.rfl
  unfold close
  by_cases hc : s.choosing ∧ s.cancelled
  · rw [if_pos hc, if_pos (hiff.mpr hc)]
    rfl
  · rw [if_neg hc, if_neg fun hc' => hc (hiff.mp hc')]

lemma untraced_deliver (h : s.pipeline.transport = t.traced) :
    (s.untraced t).deliver = s.deliver.untraced t := by
  have hheld : (s.untraced t).held = s.held := rfl
  unfold deliver
  rw [hheld]
  cases s.held with
  | none => rfl
  | some e =>
    have hdeliver := Delivery.deliver_traced t e s.pipeline.delivery
    rw [← h] at hdeliver
    simp only [untraced, Pipeline.untraced, hdeliver]

lemma untraced_turn (h : s.pipeline.transport = t.traced) (turn : Turn) :
    (s.untraced t).turn turn = (s.turn turn).untraced t := by
  cases turn with
  | offer i => exact untraced_offer t s i
  | resume i => exact untraced_resume t s i
  | cancel => rfl
  | wake => exact untraced_wake t s
  | receive => exact untraced_receive h
  | close => exact untraced_close t s
  | deliver => exact untraced_deliver h

lemma untraced_capture (t : Transport σ) (s : Parties (σ × List Call)) (side : Direction)
    (host : Host) (flow : Flow) (moment : Moment) :
    (s.untraced t).capture side host flow moment =
      (s.capture side host flow moment).untraced t := by
  obtain ⟨hevents, hpipeline⟩ := untraced_eventsOf t s.pipeline side flow moment
  have hreports : (s.untraced t).report side flow moment ::
      (s.untraced t).sweepReports side flow moment =
        s.report side flow moment :: s.sweepReports side flow moment := by
    cases side <;> rfl
  have hself : (s.untraced t).pipeline = s.pipeline.untraced t := rfl
  simp only [capture]
  rw [hreports, hself, hevents, hpipeline]
  rfl

/-! ### Runs -/

lemma transport_perform (h : s.pipeline.transport = t.traced) (actions : List Action) :
    (s.perform actions).pipeline.transport = t.traced := by
  apply perform_induction_of_alike (P := fun s => s.pipeline.transport = t.traced) h
  · exact fun s p reports h hp _ => hp.transport.trans h
  · exact fun s way events h _ => h
  · exact fun s h => h
  · intro s s' h ht
    cases ht with
    | enters | refused | resumes | fails => simpa using h
    | _ => exact h

/-- A run of a traced transport is the run of the transport itself, with the calls beside it. -/
theorem untraced_perform (h : s.pipeline.transport = t.traced) (actions : List Action) :
    (s.untraced t).perform actions = (s.perform actions).untraced t := by
  induction actions using List.reverseRecOn with
  | nil => rfl
  | append_singleton actions a ih =>
    rw [perform_append, perform_append, ih]
    -- the last action meets the traced transport as well
    have h' := transport_perform h actions
    generalize s.perform actions = s' at h'
    change (s'.untraced t).act a = (s'.act a).untraced t
    cases a with
    | capture side host flow moment =>
      have horphaned : (s'.untraced t).queue.orphaned = s'.queue.orphaned := rfl
      simp only [act]
      rw [horphaned]
      by_cases ho : s'.queue.orphaned = true
      · rw [if_pos ho, if_pos ho]
      · rw [if_neg ho, if_neg ho]
        exact untraced_capture t s' side host flow moment
    | sweep now => rfl
    | leave =>
      have hiff : (s'.untraced t).idle ↔ s'.idle := Iff.rfl
      simp only [act]
      by_cases hi : s'.idle
      · rw [if_pos hi, if_pos (hiff.mpr hi)]
        rfl
      · rw [if_neg hi, if_neg fun hi' => hi (hiff.mp hi')]
    | turn turn => exact untraced_turn h' turn

end Parties

end TrafficFeed
