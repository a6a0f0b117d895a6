import TrafficFeed.Proofs.Crew.Course
import TrafficFeed.Proofs.Parties.Sequential

/-!
# The progress of a crew

A crew never comes to a standstill before it is complete: as long as it is not, someone has a step
that brings the end nearer. So every run can be led to the end, however it has begun.
-/

namespace TrafficFeed

open TrafficFeed.Pipeline TrafficFeed.Transport Event

variable {σ : Type}

/-! ### How much is left to do -/

/-- How far a phase of the worker is from the last. -/
def Pipeline.Phase.ahead : Phase → Nat
  | .idle => 2
  | .running => 1
  | .stopped => 0

namespace Parties

variable {s s' : Parties σ}

/-- How much the steps of the parties have left to do: an event that is to be sent weighs more than
one in the queue, that more than one held by the worker, and a producer that can go on more than one
that waits. -/
def weight (s : Parties σ) : Nat :=
  5 * s.pending + s.active.length + 3 * s.queue.items.length + s.held.toList.length +
    s.pipeline.worker.ahead + (!s.cancelled).toNat + (!s.queue.closed).toNat

lemma length_rest?_le (p : Producer) : p.rest?.toList.length ≤ 1 := by
  cases p.rest? <;> simp

/-- A step that changes anything leaves less to do. -/
lemma Turned.weight_lt (h : Turned s s') : s' = s ∨ s'.weight < s.weight := by
  have hpending := (Worked.of_turned h).pending_add
  cases h with
  | nothing => exact .inl rfl
  | enters i p hp hopen hfree =>
    right
    have hactive := (perm_of_getElem? hp).length_eq
    have hrest := length_rest?_le p
    simp [weight, Queue.push, hopen] at hpending hactive ⊢
    omega
  | refused i p e hp he =>
    right
    have hactive := (perm_of_getElem? hp).length_eq
    have hrest := length_rest?_le p
    simp [weight] at hpending hactive ⊢
    omega
  | parks i p hp hopen hfree =>
    right
    have hactive := (perm_of_getElem? hp).length_eq
    simp [weight] at hpending hactive ⊢
    omega
  | resumes i p w hp hw hopen hready =>
    right
    have hrest := length_rest?_le p
    simp [weight] at hpending ⊢
    omega
  | fails i p w hp hw hclosed =>
    right
    have hrest := length_rest?_le p
    simp [weight] at hpending ⊢
    omega
  | cancels =>
    cases hc : s.cancelled with
    | true => exact .inl (by rw [cancel, ← hc])
    | false =>
      right
      simp [weight, cancel, hc, pending, workers]
  | wakes hidle =>
    right
    simp [weight, hidle, Phase.ahead, pending, workers]
  | receives e items hc hitems =>
    right
    simp [weight, hc.2, hitems, pending, workers]
    omega
  | stops hc hitems hover =>
    right
    simp [weight, hc.1, stop, Phase.ahead, pending, workers]
  | closes hc hcancelled =>
    cases hclosed : s.queue.closed with
    | true =>
      left
      rw [withQueue, Queue.close, ← hclosed]
    | false =>
      right
      simp [weight, Queue.close, hclosed, pending, workers]
  | delivers e he =>
    right
    simp [weight, he, pending, workers]

/-- A capture takes up a producer with its events. -/
lemma weight_capture (s : Parties σ) {side : Direction} (host : Host) {flow : Flow}
    {moment : Moment} (hlength : (s.eventsOf side flow moment).length = 2) :
    (s.capture side host flow moment).weight = s.weight + 11 := by
  have halike := alike_capture s side host flow moment
  have hworkers := workers_capture s side host flow moment
  have hactive : (s.capture side host flow moment).active = s.active ++
      (Producer.ofEvents? s.born host.way (s.eventsOf side flow moment)).toList := by
    rw [capture_eq]
    rfl
  have hsame : (s.capture side host flow moment).held = s.held ∧
      (s.capture side host flow moment).cancelled = s.cancelled := ⟨rfl, rfl⟩
  have hpending : (s.capture side host flow moment).pending =
      ((Producer.ofEvents? s.born host.way (s.eventsOf side flow moment)).toList.map
        (·.events.length)).sum + s.pending := by
    rw [pending, (hworkers.map _).sum_nat, List.map_append, List.sum_append, pending]
  cases hevents : s.eventsOf side flow moment with
  | nil => simp [hevents] at hlength
  | cons e es =>
    rw [hevents] at hlength hpending hactive
    simp only [Producer.ofEvents?, Option.toList_some, List.map_cons, List.map_nil, List.sum_cons,
      List.sum_nil, Producer.events, hlength] at hpending hactive
    simp only [weight, hpending, hactive, hsame, queue, halike.queue, halike.worker,
      List.length_append, List.length_singleton]
    omega

/-! ### Steps that change something -/

lemma wake_ne (h : s.pipeline.worker = .idle) : s.wake ≠ s := by
  intro heq
  have hworker := congrArg (·.pipeline.worker) heq
  simp [wake, Pipeline.wake, h] at hworker

lemma deliver_ne {e : Event} (h : s.held = some e) : s.deliver ≠ s := by
  rw [deliver_eq h]
  intro heq
  have hheld := congrArg (·.held) heq
  simp [h] at hheld

lemma receive_ne (h : s.choosing) {e : Event} {items : List Event}
    (hitems : s.queue.items = e :: items) : s.receive ≠ s := by
  have hreceive : s.queue.receive = (.item e, Queue.release { s.queue with items }) := by
    simp only [Queue.receive, hitems]
  rw [receive_eq h hreceive]
  intro heq
  have hheld := congrArg (·.held) heq
  simp [h.2] at hheld

/-- A send of a producer ends, or begins to wait. -/
lemma conclude_ne (s s' : Parties σ) (p : Producer) (sent : Queue.Sent)
    (hhistory : s'.history = s.history) (hparked : s'.parked = s.parked) :
    s'.conclude p sent ≠ s := by
  intro heq
  have hlengths := congrArg (fun s => (s.history.length, s.parked.length)) heq
  cases sent <;> simp [conclude, hhistory, hparked] at hlengths

lemma offer_ne {p : Producer} (h : s.active[0]? = some p) : s.offer 0 ≠ s := by
  rw [offer_eq h rfl]
  exact conclude_ne _ _ _ _ rfl rfl

lemma resume_ne {i : Nat} {p : Producer} {w : Queue.Waiter Event} (hp : s.parked[i]? = some p)
    (hw : s.queue.waiting[i]? = some w) (hready : w.ready = true)
    (hopen : s.queue.closed = false) : s.resume i ≠ s := by
  have hpoll : s.queue.poll i = (.ok, { s.queue with
      waiting := s.queue.waiting.eraseIdx i
      items := s.queue.items ++ [w.item] }) := by
    simp [Queue.poll, hw, Queue.resume, hopen, hready]
  intro heq
  have hlength := congrArg (·.history.length) heq
  simp [resume, hp, hpoll, conclude] at hlength

lemma close_ne (h : s.choosing) (hc : s.cancelled = true) (hopen : s.queue.closed = false) :
    s.close ≠ s := by
  intro heq
  have hclosed := congrArg (·.queue.closed) heq
  rw [close, if_pos ⟨h, hc⟩] at hclosed
  simp [Queue.close] at hclosed
  rw [hclosed] at hopen
  cases hopen

lemma receive_ne_of_finished (h : s.choosing) (hitems : s.queue.items = [])
    (hclosed : s.queue.closed = true) (hfree : s.queue.free = s.queue.capacity) :
    s.receive ≠ s := by
  have hreceive : s.queue.receive = (.finished, s.queue) := by
    simp [Queue.receive, hitems, hclosed, hfree]
  intro heq
  have hworker := congrArg (·.pipeline.worker) heq
  simp [receive, h, hreceive, stop] at hworker
  simp [h.1] at hworker

/-- As long as a producer or an event is on its way, a step other than asking for the end changes
something. -/
lemma Smooth.exists_turn {t : Transport σ} {s : Parties (σ × List Call)} (h : Smooth t s)
    (hrunning : s.pipeline.worker = .running)
    (hbusy : ¬ (s.held = none ∧ s.queue.items = [] ∧ s.idle)) :
    ∃ turn, turn ≠ .cancel ∧ s.turn turn ≠ s := by
  cases hheld : s.held with
  | some e => exact ⟨.deliver, by decide, deliver_ne hheld⟩
  | none =>
    cases hitems : s.queue.items with
    | cons e items => exact ⟨.receive, by decide, receive_ne ⟨hrunning, hheld⟩ hitems⟩
    | nil =>
      cases hactive : s.active with
      | cons p active => exact ⟨.offer 0, by decide, offer_ne (p := p) (by rw [hactive]; rfl)⟩
      | nil =>
        -- the queue is empty, so that a slot is held for one of the sends that wait
        have hparked : s.parked ≠ [] := fun hparked => hbusy ⟨hheld, hitems, hactive, hparked⟩
        have hopen : s.queue.closed = false := by
          by_contra hclosed
          have hnil := h.quits (by simpa using hclosed)
          exact hparked (workers_eq_nil_iff.mp hnil).2
        have hlengths := congrArg List.length h.accounts.conveyed.lined.items
        rw [List.length_map, List.length_map] at hlengths
        have hwaiting : s.queue.waiting ≠ [] := by
          intro hnil
          rw [hnil, List.length_nil] at hlengths
          exact hparked (List.eq_nil_of_length_eq_zero hlengths.symm)
        obtain ⟨i, w, hw, hready⟩ := Queue.exists_ready h.accounts.balanced h.eager hopen h.room
          hitems hwaiting
        have hi : i < s.parked.length := by
          rw [← hlengths]
          exact (List.getElem?_eq_some_iff.mp hw).1
        have hp : s.parked[i]? = some s.parked[i] := List.getElem?_eq_getElem hi
        exact ⟨.resume i, by simp, resume_ne hp hw hready hopen⟩

/-- Where nothing is on its way, no slot is taken. -/
lemma Smooth.free_eq {t : Transport σ} {s : Parties (σ × List Call)} (h : Smooth t s)
    (hitems : s.queue.items = []) (hidle : s.idle) : s.queue.free = s.queue.capacity := by
  have hwaiting := h.accounts.conveyed.lined.waiting_eq_nil hidle
  simpa [Queue.Balanced, hitems, hwaiting] using h.accounts.balanced

end Parties

/-- How many captures a thread has left. -/
def Thread.left (th : Thread) : Nat := 2 * th.later.length + th.awaited.toList.length

lemma Thread.Next.left_eq {th th' : Thread} {side : Direction} {flow : Flow}
    (h : th.Next side flow th') : th.left = th'.left + 1 := by
  cases h with
  | asks x later hawaited hlater =>
    simp [left, hawaited, hlater]
    omega
  | answers x hawaited => simp [left, hawaited]

namespace Crew

open Parties

/-- How much a crew has left to do. -/
def weight (c : Crew σ) : Nat := 12 * (c.threads.map Thread.left).sum + c.parties.weight

/-- Whether someone has a step that brings the end nearer. -/
def Advances (c : Crew σ) : Prop := ∃ a, c.Prompt a ∧ (c.act a).weight < c.weight

lemma advances_of_turned {c : Crew σ} {turn : Turn} {s : Parties σ}
    (hact : c.act (.turn turn) = { c with parties := s }) (hturned : Turned c.parties s)
    (hne : s ≠ c.parties) : c.Advances := by
  refine ⟨.turn turn, ?_, ?_⟩
  · intro now hnow
    cases hnow
  · have hlt := hturned.weight_lt.resolve_left hne
    rw [hact]
    simpa only [weight, Nat.add_lt_add_iff_left] using hlt

lemma advances_of_turn {c : Crew σ} (turn : Turn) (hturn : turn ≠ .cancel)
    (hne : c.parties.turn turn ≠ c.parties) : c.Advances :=
  advances_of_turned (act_turn c hturn) (.of_turn c.parties turn) hne

variable {t : Transport σ} {ttl limit : Nat} {c : Crew (σ × List Call)}

/-- A thread that is not finished makes its next capture when nobody is sending. -/
lemma OnCourse.advances_of_idle (h : c.OnCourse t ttl limit) (hpos : 0 < ttl)
    (hidle : c.parties.idle) {th : Thread} (hth : th ∈ c.threads) (hleft : ¬ th.Finished) :
    c.Advances := by
  obtain ⟨i, hi⟩ := List.mem_iff_getElem?.mp hth
  obtain ⟨side, flow, th', hnext⟩ := Thread.exists_next? hleft
  have hfree : ¬ th.Busy c.parties := by
    rintro ⟨p, hp, -⟩
    rw [workers_eq_nil_iff.mpr hidle] at hp
    cases hp
  have hact : c.act (.capture i (.simple 0)) =
      ⟨c.parties.capture side th.host flow (.simple 0),
        c.threads.set i { th' with last := some c.parties.born }⟩ := by
    simp only [act, Crew.capture, hi, if_neg hfree, hnext, act_capture h.smooth.present]
  obtain ⟨others, hbefore, hafter⟩ := exists_perm_set hi { th' with last := some c.parties.born }
  have hlength := h.length_eventsOf (Thread.Next.of_next? hnext) (.simple 0)
  refine ⟨.capture i (.simple 0), ?_, ?_⟩
  · intro now hnow w hw
    obtain rfl : 0 = now := by simpa [Step.reading?, Moment.simple] using hnow
    simpa [Correlation.fresh, h.recalls.ttl_eq] using hpos
  · have hless : th.left = Thread.left { th' with last := some c.parties.born } + 1 :=
      (Thread.Next.of_next? hnext).left_eq
    rw [hact]
    simp only [weight, weight_capture c.parties th.host hlength]
    rw [(hbefore.map _).sum_nat, (hafter.map _).sum_nat, List.map_cons, List.sum_cons,
      List.map_cons, List.sum_cons, hless]
    omega

/-- When all threads are done and nothing is on its way, the end is asked for, the queue closed, and
the worker stops. -/
lemma OnCourse.advances_of_done (h : c.OnCourse t ttl limit) (hdone : c.Done)
    (hchoosing : c.parties.choosing) (hitems : c.parties.queue.items = []) : c.Advances := by
  cases hcancelled : c.parties.cancelled with
  | false =>
    have hne : c.parties.cancel ≠ c.parties := by
      intro heq
      have hsame := congrArg Parties.cancelled heq
      rw [hcancelled] at hsame
      cases hsame
    have hact : c.act (.turn .cancel) = { c with parties := c.parties.cancel } := if_pos hdone
    exact advances_of_turned hact .cancels hne
  | true =>
    cases hclosed : c.parties.queue.closed with
    | false =>
      exact advances_of_turn .close (by decide) (close_ne hchoosing hcancelled hclosed)
    | true =>
      exact advances_of_turn .receive (by decide)
        (receive_ne_of_finished hchoosing hitems hclosed (h.smooth.free_eq hitems hdone.2))

/-- As long as a crew is not complete, someone can go on. -/
lemma OnCourse.advances (h : c.OnCourse t ttl limit) (hpos : 0 < ttl) (hnot : ¬ c.Complete) :
    c.Advances := by
  have hconveyed := h.smooth.accounts.conveyed
  cases hworker : c.parties.pipeline.worker with
  | stopped =>
    have hclosed : c.parties.queue.closed = true := by
      rcases (hconveyed.after hworker).ended with hclosed | hleft
      · exact hclosed
      · rw [h.smooth.present] at hleft
        cases hleft
    exact absurd ⟨h.cancelled (h.closed hclosed), hworker⟩ hnot
  | idle => exact advances_of_turn .wake (by decide) (wake_ne hworker)
  | running =>
    by_cases hrest : c.parties.held = none ∧ c.parties.queue.items = [] ∧ c.parties.idle
    · obtain ⟨hheld, hitems, hidle⟩ := hrest
      by_cases hfinished : ∀ th ∈ c.threads, th.Finished
      · exact h.advances_of_done ⟨hfinished, hidle⟩ ⟨hworker, hheld⟩ hitems
      · simp only [not_forall, exists_prop] at hfinished
        obtain ⟨th, hth, hleft⟩ := hfinished
        exact h.advances_of_idle hpos hidle hth hleft
    · obtain ⟨turn, hturn, hne⟩ := h.smooth.exists_turn hworker hrest
      exact advances_of_turn turn hturn hne

/-- Whatever has happened, a crew can come to its end, and no request need wait too long. -/
lemma OnCourse.exists_complete (h : c.OnCourse t ttl limit) (hpos : 0 < ttl) :
    ∃ steps, c.Timely steps ∧ (c.run steps).Complete := by
  -- by induction on what is left to do; nothing else becomes smaller with every step
  induction hweight : c.weight using Nat.strongRecOn generalizing c with
  | ind n ih =>
    by_cases hcomplete : c.Complete
    · exact ⟨[], trivial, hcomplete⟩
    · obtain ⟨a, hprompt, hless⟩ := h.advances hpos hcomplete
      have hnext := h.acted hpos hprompt (.of_act c a)
      obtain ⟨steps, hsteps, hend⟩ := ih _ (hweight ▸ hless) hnext rfl
      exact ⟨a :: steps, ⟨hprompt, hsteps⟩, hend⟩

end Crew

end TrafficFeed
