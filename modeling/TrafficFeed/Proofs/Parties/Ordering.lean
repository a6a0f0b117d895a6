import TrafficFeed.Proofs.Parties.Accounting

/-!
# The events of a flow

As long as no two producers work for the same flow at the same time and no event is refused, the
events of a flow enter the queue in the order in which its captures have made them, whatever the
producers of other flows do in between.
-/

namespace TrafficFeed

open TrafficFeed.Pipeline

variable {σ : Type}

/-- The events of one flow, or those of none. -/
def Event.ofFlow (k : Option FlowId) (es : List Event) : List Event := es.filter (·.flowId? = k)

namespace Event

variable {k : Option FlowId} {es fs : List Event}

@[simp] lemma ofFlow_nil (k : Option FlowId) : ofFlow k [] = [] := rfl

@[simp] lemma ofFlow_append (k : Option FlowId) (es fs : List Event) :
    ofFlow k (es ++ fs) = ofFlow k es ++ ofFlow k fs :=
  List.filter_append ..

lemma ofFlow_eq_self (h : ∀ e ∈ es, e.flowId? = k) : ofFlow k es = es := by
  rw [ofFlow, List.filter_eq_self]
  intro e he
  simpa using h e he

lemma ofFlow_eq_nil {k' : Option FlowId} (h : ∀ e ∈ es, e.flowId? = k) (hne : k ≠ k') :
    ofFlow k' es = [] := by
  rw [ofFlow, List.filter_eq_nil_iff]
  intro e he
  simpa [h e he] using hne

end Event

open Event

def Producer.flow? (p : Producer) : Option FlowId := p.next.flowId?

namespace Parties

/-- The events that the captures have made. -/
def made (s : Parties σ) : List Event := s.history.flatMap (Report.events s.pipeline.schema)

lemma length_made (s : Parties σ) : s.made.length = s.built := by
  simp only [made, built, List.length_flatMap, Report.length_events]

/-- The flows that the producers at work are for. -/
def served (s : Parties σ) : List (Option FlowId) := s.workers.map Producer.flow?

/-- The events of each flow enter in the order in which they were made: those of a flow that a
producer works for have entered up to that producer's next, those of another all. -/
structure Ordered (s : Parties σ) : Prop where
  uniform : ∀ p ∈ s.workers, ∀ e ∈ p.events, e.flowId? = p.flow?
  apart : s.served.Nodup
  rest : ∀ p ∈ s.workers, ofFlow p.flow? s.accepted ++ p.events = ofFlow p.flow? s.made
  sent : ∀ k, k ∉ s.served → ofFlow k s.accepted = ofFlow k s.made

variable {s s' : Parties σ}

lemma Ordered.new (p : Pipeline σ) : Ordered (new p) where
  uniform _ hp := absurd hp List.not_mem_nil
  apart := List.nodup_nil
  rest _ hp := absurd hp List.not_mem_nil
  sent _ _ := rfl

lemma Ordered.rests (h : Ordered s) (hworkers : s'.workers.Perm s.workers)
    (haccepted : s'.accepted = s.accepted) (hmade : s'.made = s.made) : Ordered s' := by
  have hserved : s'.served.Perm s.served := hworkers.map _
  constructor
  · intro p hp
    exact h.uniform p (hworkers.mem_iff.mp hp)
  · exact hserved.nodup_iff.mpr h.apart
  · intro p hp
    rw [haccepted, hmade]
    exact h.rest p (hworkers.mem_iff.mp hp)
  · intro k hk
    rw [haccepted, hmade]
    exact h.sent k fun hmem => hk (hserved.mem_iff.mpr hmem)

/-- What remains of a producer after its next event works for the same flow. -/
lemma flow?_of_rest? {p q : Producer} (h : p.rest? = some q)
    (huniform : ∀ e ∈ p.events, e.flowId? = p.flow?) :
    q.flow? = p.flow? ∧ q.name = p.name ∧ q.way = p.way ∧ p.events = p.next :: q.events := by
  unfold Producer.rest? at h
  cases hlater : p.later with
  | nil => simp [hlater, Producer.ofEvents?] at h
  | cons e es =>
    obtain rfl : q = ⟨p.name, p.way, e, es⟩ := by
      simpa [hlater, Producer.ofEvents?, eq_comm] using h
    have hevents : p.events = p.next :: e :: es := by rw [Producer.events, hlater]
    exact ⟨huniform e (by simp [hevents]), rfl, rfl, hevents⟩

lemma events_of_rest?_eq_none {p : Producer} (h : p.rest? = none) : p.events = [p.next] := by
  unfold Producer.rest? at h
  cases hlater : p.later with
  | nil => rw [Producer.events, hlater]
  | cons e es => simp [hlater, Producer.ofEvents?] at h

/-- The next event of a producer enters. -/
lemma Ordered.sends (h : Ordered s) {p : Producer} {others : List Producer}
    (hbefore : s.workers.Perm (p :: others)) (hafter : s'.workers.Perm (p.rest?.toList ++ others))
    (haccepted : s'.accepted = s.accepted ++ [p.next]) (hmade : s'.made = s.made) :
    Ordered s' := by
  have hp : p ∈ s.workers := hbefore.mem_iff.mpr List.mem_cons_self
  have hothers : ∀ q ∈ others, q ∈ s.workers := fun q hq =>
    hbefore.mem_iff.mpr (List.mem_cons_of_mem _ hq)
  have hapart : (p.flow? :: others.map Producer.flow?).Nodup :=
    (hbefore.map Producer.flow?).nodup_iff.mp h.apart
  rw [List.nodup_cons] at hapart
  have hnext : ∀ e ∈ [p.next], e.flowId? = p.flow? := by simp [Producer.flow?]
  have hself : ofFlow p.flow? s'.accepted = ofFlow p.flow? s.accepted ++ [p.next] := by
    rw [haccepted, ofFlow_append, ofFlow_eq_self hnext]
  have hother : ∀ k, k ≠ p.flow? → ofFlow k s'.accepted = ofFlow k s.accepted := by
    intro k hk
    rw [haccepted, ofFlow_append, ofFlow_eq_nil hnext hk.symm, List.append_nil]
  have hrest : ∀ q ∈ others, ofFlow q.flow? s'.accepted ++ q.events = ofFlow q.flow? s'.made := by
    intro q hq
    have hne : q.flow? ≠ p.flow? := fun heq => hapart.1 (List.mem_map.mpr ⟨q, hq, heq⟩)
    rw [hother _ hne, hmade]
    exact h.rest q (hothers q hq)
  have hsent : ∀ k, k ≠ p.flow? → k ∉ others.map Producer.flow? →
      ofFlow k s'.accepted = ofFlow k s'.made := by
    intro k hk hk'
    rw [hother k hk, hmade]
    apply h.sent
    intro hmem
    rcases List.mem_cons.mp ((hbefore.map Producer.flow?).mem_iff.mp hmem) with heq | hmem
    · exact hk heq
    · exact hk' hmem
  have hserved : s'.served.Perm ((p.rest?.toList ++ others).map Producer.flow?) := hafter.map _
  cases hq : p.rest? with
  | none =>
    rw [hq] at hafter hserved
    constructor
    · intro q hmem
      exact h.uniform q (hothers q (hafter.mem_iff.mp hmem))
    · exact hserved.nodup_iff.mpr hapart.2
    · intro q hmem
      exact hrest q (hafter.mem_iff.mp hmem)
    · intro k hk
      by_cases hkp : k = p.flow?
      · have hall := h.rest p hp
        rw [events_of_rest?_eq_none hq] at hall
        rw [hkp, hself, hmade, hall]
      · exact hsent k hkp fun hmem => hk (hserved.mem_iff.mpr hmem)
  | some q =>
    obtain ⟨hflow, -, -, hevents⟩ := flow?_of_rest? hq (h.uniform p hp)
    rw [hq] at hafter hserved
    constructor
    · intro r hmem
      rcases List.mem_cons.mp (hafter.mem_iff.mp hmem) with rfl | hmem
      · intro e he
        rw [hflow]
        exact h.uniform p hp e (by simp [hevents, he])
      · exact h.uniform r (hothers r hmem)
    · rw [hserved.nodup_iff]
      refine List.nodup_cons.mpr ⟨?_, hapart.2⟩
      rw [hflow]
      exact hapart.1
    · intro r hmem
      rcases List.mem_cons.mp (hafter.mem_iff.mp hmem) with rfl | hmem
      · have hall := h.rest p hp
        rw [hevents] at hall
        rw [hflow, hself, hmade, List.append_assoc]
        exact hall
      · exact hrest r hmem
    · intro k hk
      have hk' : k ∉ q.flow? :: others.map Producer.flow? := fun hmem =>
        hk (hserved.mem_iff.mpr hmem)
      rw [hflow, List.mem_cons, not_or] at hk'
      exact hsent k hk'.1 hk'.2

/-- A producer comes with new events of a flow that no producer works for. -/
lemma Ordered.comes (h : Ordered s) {p : Producer} (hafter : s'.workers.Perm (p :: s.workers))
    (haccepted : s'.accepted = s.accepted) (hmade : s'.made = s.made ++ p.events)
    (huniform : ∀ e ∈ p.events, e.flowId? = p.flow?) (hfree : p.flow? ∉ s.served) :
    Ordered s' := by
  have hserved : s'.served.Perm (p.flow? :: s.served) := hafter.map _
  have hother : ∀ k, k ≠ p.flow? → ofFlow k s'.made = ofFlow k s.made := by
    intro k hk
    rw [hmade, ofFlow_append, ofFlow_eq_nil huniform hk.symm, List.append_nil]
  constructor
  · intro q hmem
    rcases List.mem_cons.mp (hafter.mem_iff.mp hmem) with rfl | hmem
    · exact huniform
    · exact h.uniform q hmem
  · exact hserved.nodup_iff.mpr (List.nodup_cons.mpr ⟨hfree, h.apart⟩)
  · intro q hmem
    rw [haccepted]
    rcases List.mem_cons.mp (hafter.mem_iff.mp hmem) with rfl | hmem
    · rw [hmade, ofFlow_append, ofFlow_eq_self huniform, h.sent _ hfree]
    · have hne : q.flow? ≠ p.flow? := fun heq => hfree (heq ▸ List.mem_map_of_mem hmem)
      rw [hother _ hne]
      exact h.rest q hmem
  · intro k hk
    have hk' : k ∉ p.flow? :: s.served := fun hmem => hk (hserved.mem_iff.mpr hmem)
    rw [List.mem_cons, not_or] at hk'
    rw [haccepted, hother k hk'.1]
    exact h.sent k hk'.2

end Parties

end TrafficFeed
