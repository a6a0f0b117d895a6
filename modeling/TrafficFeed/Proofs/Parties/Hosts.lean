import TrafficFeed.Proofs.Parties.Accounting
import TrafficFeed.Proofs.Parties.Operations

/-!
# From where a capture comes

A capture comes from a task, from a thread, or from the loop on which the worker runs as well. They
differ in what they do at an open queue without a free slot whose policy is to wait, and in nothing
else. So where the queue drops what finds no slot, is closed, or has a slot for every event that is
to come, a capture does the same from wherever it comes, and so does a run of captures.
-/

namespace TrafficFeed

open TrafficFeed.Pipeline TrafficFeed.Transport

variable {σ : Type}

/-! ### Room -/

namespace Queue

variable {α : Type} {q : Queue α} {n : Nat}

/-- Whether nobody would have to wait to send `n` items. -/
def Spares (q : Queue α) (n : Nat) : Prop :=
  q.policy = .dropNewest ∨ q.closed = true ∨ n ≤ q.free

instance (q : Queue α) (n : Nat) : Decidable (q.Spares n) :=
  inferInstanceAs (Decidable (_ ∨ _ ∨ _))

lemma Spares.push (h : q.Spares (n + 1)) (a : α) : (q.push a).Spares n := by
  obtain hpolicy | hclosed | hfree := h
  · exact .inl hpolicy
  · exact .inr (.inl hclosed)
  · exact .inr (.inr (Nat.le_sub_of_add_le hfree))

/-- Where nobody would have to wait, all ways of sending are the same. -/
lemma enter_eq_of_spares (h : q.Spares 1) (way way' : Way) (a : α) :
    q.enter way a = q.enter way' a := by
  cases hclosed : q.closed with
  | true => rw [enter_of_closed hclosed, enter_of_closed hclosed]
  | false =>
    by_cases hfree : q.free = 0
    · have hpolicy : q.policy = .dropNewest := by
        simpa [Spares, hclosed, hfree] using h
      rw [enter_of_dropNewest hclosed hfree hpolicy, enter_of_dropNewest hclosed hfree hpolicy]
    · rw [enter_of_free hclosed hfree, enter_of_free hclosed hfree]

end Queue

/-! ### A single capture -/

namespace Pipeline

variable {p : Pipeline σ}

/-- An offer that nobody has to wait for is the same from everywhere, and leaves room for the
others. -/
lemma offer_of_spares {n : Nat} (h : p.queue.Spares (n + 1)) (e : Event) :
    ∃ r q, (∀ host, p.offer host e = (r, [], { p with queue := q })) ∧ q.Spares n := by
  cases hclosed : p.queue.closed with
  | true => exact ⟨_, _, fun host => offer_of_closed hclosed host e, .inr (.inl hclosed)⟩
  | false =>
    by_cases hfree : p.queue.free = 0
    · have hpolicy : p.queue.policy = .dropNewest := by
        simpa [Queue.Spares, hclosed, hfree] using h
      exact ⟨_, _, fun host => offer_of_dropNewest hclosed hfree hpolicy host e, .inl hpolicy⟩
    · exact ⟨_, _, fun host => offer_of_free hclosed hfree host e, h.push e⟩

lemma enqueue_eq_of_spares {events : List Event} (h : p.queue.Spares events.length)
    (host host' : Host) : enqueue host events p = enqueue host' events p := by
  induction events generalizing p with
  | nil => rfl
  | cons e es ih =>
    obtain ⟨r, q, hoffer, hspares⟩ := offer_of_spares h e
    have hrest := @ih (({ p with queue := q }.recordOffer e.label r).2) (by
      rw [recordOffer_eq, queue_mapMetrics]
      exact hspares)
    simp only [enqueue, hoffer, hrest]

/-- Either side of a flow is captured. -/
def capture (p : Pipeline σ) (side : Direction) (host : Host) (flow : Flow) (moment : Moment) :
    List Log.Entry × Pipeline σ :=
  match side with
  | .request => p.captureRequest host flow moment
  | .response => p.captureResponse host flow moment

lemma capture_eq_of_spares {side : Direction} {flow : Flow} {moment : Moment}
    (h : p.queue.Spares (p.eventsOf side flow moment).1.length) (host host' : Host) :
    p.capture side host flow moment = p.capture side host' flow moment := by
  rw [← (Alike.eventsOf p side flow moment).queue] at h
  have henqueue := enqueue_eq_of_spares h host host'
  cases side with
  | request =>
    simp only [eventsOf] at henqueue
    simp only [capture, captureRequest, henqueue]
  | response =>
    simp only [eventsOf] at henqueue
    simp only [capture, captureResponse, henqueue]

end Pipeline

/-! ### To forget from where captures come -/

/-- The producer as a task. -/
def Producer.asTask (p : Producer) : Producer := { p with way := .task }

/-- The report with every producer as a task. -/
def Report.asTask : Report → Report
  | .joined name _ events => .joined name .task events
  | r => r

/-- The action with every capture made by a task. -/
def Parties.Action.asTask : Parties.Action → Parties.Action
  | .capture side _ flow moment => .capture side .task flow moment
  | a => a

lemma Producer.map_asTask_ofEvents? (name : Nat) (way : Queue.Way) (events : List Event) :
    (ofEvents? name way events).toList.map asTask = (ofEvents? name .task events).toList := by
  cases events <;> rfl

lemma Report.asTask_of_isAside {r : Report} (h : r.isAside = true) : r.asTask = r := by
  cases r <;> first | rfl | cases h

namespace Parties

/-- The parties with every producer as a task. -/
def asTask (s : Parties σ) : Parties σ :=
  { s with
    active := s.active.map Producer.asTask
    parked := s.parked.map Producer.asTask
    history := s.history.map Report.asTask }

variable {s : Parties σ}

lemma asTask_conclude (s : Parties σ) (p : Producer) (sent : Queue.Sent) :
    (s.conclude p sent).asTask = s.asTask.conclude p.asTask sent := by
  have hrest : p.rest?.toList.map Producer.asTask = p.asTask.rest?.toList :=
    Producer.map_asTask_ofEvents? _ _ _
  have hrecord : ∀ r, (s.record p r).asTask = s.asTask.record p.asTask r := by
    intro r
    simp only [record, asTask, List.map_append, hrest]
    rfl
  cases sent with
  | ok => exact hrecord _
  | failed e => exact hrecord _
  | pending => simp [conclude, asTask]

lemma asTask_offer {i : Nat} (h : i < s.active.length → s.queue.Spares 1) :
    (s.offer i).asTask = s.asTask.offer i := by
  have hactive : s.asTask.active[i]? = s.active[i]?.map Producer.asTask := List.getElem?_map ..
  unfold offer
  rw [hactive]
  cases hp : s.active[i]? with
  | none => rfl
  | some p =>
    have hspares := h (List.getElem?_eq_some_iff.mp hp).1
    have henter : s.asTask.queue.enter p.asTask.way p.asTask.next = s.queue.enter p.way p.next :=
      Queue.enter_eq_of_spares hspares _ _ _
    simp only [Option.map_some, henter, asTask_conclude]
    congr 1
    simp [asTask, withQueue, List.eraseIdx_map]

lemma asTask_resume (s : Parties σ) (i : Nat) : (s.resume i).asTask = s.asTask.resume i := by
  have hparked : s.asTask.parked[i]? = s.parked[i]?.map Producer.asTask := List.getElem?_map ..
  have hqueue : s.asTask.queue = s.queue := rfl
  unfold resume
  rw [hparked, hqueue]
  have hpolled : ∀ queue, ({ s with parked := s.parked.eraseIdx i }.withQueue queue).asTask =
      { s.asTask with parked := s.asTask.parked.eraseIdx i }.withQueue queue := by
    intro queue
    simp [asTask, withQueue, List.eraseIdx_map]
  cases s.parked[i]? with
  | none => rfl
  | some p =>
    rcases s.queue.poll i with ⟨sent, queue⟩
    cases sent with
    | pending => rfl
    | ok | failed => simp only [Option.map_some, asTask_conclude, hpolled]

lemma asTask_receive (s : Parties σ) : s.receive.asTask = s.asTask.receive := by
  have hchoosing : s.asTask.choosing ↔ s.choosing := Iff.rfl
  have hqueue : s.asTask.queue = s.queue := rfl
  unfold receive
  rw [hqueue]
  by_cases hc : s.choosing
  · rw [if_pos hc, if_pos (hchoosing.mpr hc)]
    rcases s.queue.receive with ⟨received, queue⟩
    cases received <;> rfl
  · rw [if_neg hc, if_neg (hchoosing.not.mpr hc)]

lemma asTask_close (s : Parties σ) : s.close.asTask = s.asTask.close := by
  have hchoosing : (s.asTask.choosing ∧ s.asTask.cancelled) ↔ s.choosing ∧ s.cancelled := Iff.rfl
  unfold close
  by_cases hc : s.choosing ∧ s.cancelled
  · rw [if_pos hc, if_pos (hchoosing.mpr hc)]
    rfl
  · rw [if_neg hc, if_neg (hchoosing.not.mpr hc)]

lemma asTask_deliver (s : Parties σ) : s.deliver.asTask = s.asTask.deliver := by
  have hheld : s.asTask.held = s.held := rfl
  unfold deliver
  rw [hheld]
  cases s.held <;> rfl

lemma asTask_capture (s : Parties σ) (side : Direction) (host : Host) (flow : Flow)
    (moment : Moment) :
    (s.capture side host flow moment).asTask = s.asTask.capture side .task flow moment := by
  have haside := isAside_reports s side flow moment
  have hreports : (s.report side flow moment :: s.sweepReports side flow moment).map
      Report.asTask = s.report side flow moment :: s.sweepReports side flow moment :=
    (List.map_congr_left fun r hr => Report.asTask_of_isAside (haside r hr)).trans (List.map_id _)
  have hreport : s.asTask.report side flow moment = s.report side flow moment := by
    cases side <;> rfl
  have hsweep : s.asTask.sweepReports side flow moment = s.sweepReports side flow moment := by
    cases side <;> rfl
  have hpipeline : s.asTask.pipeline = s.pipeline := rfl
  rw [capture_eq, capture_eq, hreport, hsweep, hpipeline]
  simp only [join, note, asTask, List.map_append, hreports, Producer.map_asTask_ofEvents?]
  rfl

/-! ### Runs -/

/-- Whether there is room for an action: nobody would have to wait for a send. -/
def sparesSend (s : Parties σ) : Action → Prop
  | .turn (.offer i) => i < s.active.length → s.queue.Spares 1
  | _ => True

/-- Whether there is room for an action: nobody would have to wait for the sends of a capture
beside those that are under way. -/
def sparesCapture (s : Parties σ) : Action → Prop
  | .capture side _ flow moment => s.queue.orphaned = false →
    s.queue.Spares (s.pending + (s.pipeline.eventsOf side flow moment).1.length)
  | _ => True

/-- Whether there is room for an action where captures are made one at a time: a capture begins
when no other is under way, and nobody would have to wait for its own sends. -/
def sparesAlone (s : Parties σ) : Action → Prop
  | .capture side _ flow moment => s.queue.orphaned = false →
    s.idle ∧ s.queue.Spares (s.pipeline.eventsOf side flow moment).1.length
  | _ => True

/-- Whether something can be said of each action when its turn comes. -/
def Throughout (P : Parties σ → Action → Prop) (s : Parties σ) : List Action → Prop
  | [] => True
  | a :: as => P s a ∧ Throughout P (s.act a) as

lemma Throughout.mono {P Q : Parties σ → Action → Prop} (hPQ : ∀ s a, P s a → Q s a)
    {actions : List Action} (h : s.Throughout P actions) : s.Throughout Q actions := by
  induction actions generalizing s with
  | nil => trivial
  | cons a as ih => exact ⟨hPQ s a h.1, ih h.2⟩

lemma asTask_act {a : Action} (h : s.sparesSend a) : (s.act a).asTask = s.asTask.act a.asTask := by
  cases a with
  | capture side host flow moment =>
    have horphaned : s.asTask.queue.orphaned = s.queue.orphaned := rfl
    simp only [act, Action.asTask, horphaned]
    split
    · rfl
    · exact asTask_capture s side host flow moment
  | sweep now =>
    simp only [act, Action.asTask, Parties.sweep, note, asTask, List.map_append]
    rfl
  | leave =>
    have hidle : s.asTask.idle ↔ s.idle := by simp [idle, asTask]
    simp only [act, Action.asTask, hidle]
    split <;> rfl
  | turn t =>
    cases t with
    | offer i => exact asTask_offer h
    | resume i => exact asTask_resume s i
    | cancel => rfl
    | wake => rfl
    | receive => exact asTask_receive s
    | close => exact asTask_close s
    | deliver => exact asTask_deliver s

lemma throughout_asTask {actions : List Action} :
    s.asTask.Throughout sparesSend (actions.map Action.asTask) ↔
      s.Throughout sparesSend actions := by
  induction actions generalizing s with
  | nil => exact Iff.rfl
  | cons a as ih =>
    have hhead : s.asTask.sparesSend a.asTask ↔ s.sparesSend a := by
      cases a with
      | turn t => cases t <;> simp [sparesSend, Action.asTask, asTask]
      | _ => exact Iff.rfl
    refine and_congr_right_iff.mpr ?_ |>.trans (and_congr_left_iff.mpr fun _ => hhead)
    intro ha
    rw [← asTask_act (hhead.mp ha)]
    exact ih

/-- Where nobody has to wait, a run goes on in the same way if every capture is made by a task. -/
lemma asTask_perform {actions : List Action} (h : s.Throughout sparesSend actions) :
    (s.perform actions).asTask = s.asTask.perform (actions.map Action.asTask) := by
  induction actions generalizing s with
  | nil => rfl
  | cons a as ih =>
    obtain ⟨ha, has⟩ := h
    have hrest := ih has
    rw [asTask_act ha] at hrest
    exact hrest

/-- So it does from wherever the captures come. -/
lemma asTask_perform_eq {actions actions' : List Action}
    (hactions : actions'.map Action.asTask = actions.map Action.asTask)
    (h : s.Throughout sparesSend actions) :
    (s.perform actions').asTask = (s.perform actions).asTask := by
  have h' : s.Throughout sparesSend actions' := by
    rw [← throughout_asTask, hactions, throughout_asTask]
    exact h
  rw [asTask_perform h', asTask_perform h, hactions]

/-! ### Room for whole captures -/

/-- Whether nobody waits, and nobody will have to wait for the sends that are under way. -/
def Spared (s : Parties σ) : Prop :=
  s.queue.policy = .dropNewest ∨ s.queue.closed = true ∨
    s.parked = [] ∧ s.queue.waiting = [] ∧ s.pending ≤ s.queue.free

variable {s' : Parties σ}

lemma Spared.of_idle (hidle : s.idle) (hwaiting : s.queue.waiting = []) : Spared s := by
  refine .inr (.inr ⟨hidle.2, hwaiting, ?_⟩)
  rw [pending_eq_zero_of_idle hidle]
  exact Nat.zero_le _

lemma pending_pos {i : Nat} {p : Producer} (hp : s.active[i]? = some p) : 0 < s.pending := by
  have hperm := workers_perm_of_active hp
  have hpending : s.pending = p.events.length + _ := (hperm.map _).sum_nat
  have hevents : p.events.length = p.later.length + 1 := rfl
  omega

lemma Spared.sparesSend (h : Spared s) (i : Nat) : s.sparesSend (.turn (.offer i)) := by
  intro hi
  obtain hpolicy | hclosed | ⟨-, -, hroom⟩ := h
  · exact .inl hpolicy
  · exact .inr (.inl hclosed)
  · exact .inr (.inr (Nat.le_trans (pending_pos (List.getElem?_eq_getElem hi)) hroom))

/-- A step keeps the room: a send takes a slot, and is one of those that were under way. -/
lemma Spared.turned (h : Spared s) (ht : Turned s s') : Spared s' := by
  have hpending := (Worked.of_turned ht).pending_add
  obtain ⟨-, hpolicy, hclosed⟩ := ht.born_eq
  obtain hdrop | hclose | ⟨hparked, hwaiting, hroom⟩ := h
  · exact .inl (hpolicy.trans hdrop)
  · exact .inr (.inl (hclosed hclose))
  · cases ht with
    | nothing | cancels | wakes | delivers | stops =>
      exact .inr (.inr ⟨hparked, hwaiting, hroom⟩)
    | closes => exact .inr (.inl rfl)
    | enters i p hp hopen hfree =>
      rw [history_record, List.length_append, List.length_singleton] at hpending
      refine .inr (.inr ⟨hparked, hwaiting, ?_⟩)
      change _ ≤ s.queue.free - 1
      change _ + (s.history.length + 1) = _ at hpending
      omega
    | refused i p e hp he =>
      rw [history_record, List.length_append, List.length_singleton] at hpending
      refine .inr (.inr ⟨hparked, by simpa using hwaiting, ?_⟩)
      rw [queue, pipeline_record, queue_mapMetrics]
      change _ + (s.history.length + 1) = _ at hpending
      exact Nat.le_trans (by omega) hroom
    | parks i p hp hopen hfree =>
      exact absurd (pending_pos hp) (by omega)
    | resumes i p w hp | fails i p w hp => simp [hparked] at hp
    | receives e items hc hitems =>
      have hrelease : Queue.release { s.queue with items } =
          { s.queue with items, free := s.queue.free + 1 } := Queue.release_of_nil hwaiting
      rw [hrelease]
      exact .inr (.inr ⟨hparked, hwaiting, Nat.le_succ_of_le hroom⟩)

lemma Spared.capture (h : Spared s) {side : Direction} {host : Host} {flow : Flow}
    {moment : Moment} (ha : s.queue.Spares
      (s.pending + (s.pipeline.eventsOf side flow moment).1.length)) :
    Spared (s.capture side host flow moment) := by
  have hqueue : (s.capture side host flow moment).queue = s.queue :=
    (Alike.eventsOf s.pipeline side flow moment).queue
  have hpending : (s.capture side host flow moment).pending =
      (s.pipeline.eventsOf side flow moment).1.length + s.pending := pending_join _ _ _
  unfold Spared
  rw [hqueue, hpending, Nat.add_comm]
  obtain hdrop | hclosed | ⟨hparked, hwaiting, -⟩ := h
  · exact .inl hdrop
  · exact .inr (.inl hclosed)
  · exact ha.imp_right (Or.imp_right fun hroom => ⟨hparked, hwaiting, hroom⟩)

lemma Spared.leave (h : Spared s) : Spared s.leave := by
  obtain hdrop | hclosed | - := h
  · exact .inl hdrop
  · exact .inr (.inl hclosed)
  · exact .of_idle ⟨rfl, rfl⟩ rfl

lemma Spared.act (h : Spared s) {a : Action} (ha : s.sparesCapture a) : Spared (s.act a) := by
  cases a with
  | capture side host flow moment =>
    simp only [Parties.act]
    split
    · exact h
    · next hleft => exact h.capture (ha (by simpa using hleft))
  | sweep now => exact h
  | leave =>
    simp only [Parties.act]
    split
    · exact h.leave
    · exact h
  | turn t => exact h.turned (.of_turn s t)

/-- Room for whole captures is room for each of their sends. -/
lemma throughout_of_spared (h : Spared s) {actions : List Action}
    (hactions : s.Throughout sparesCapture actions) : s.Throughout Parties.sparesSend actions := by
  induction actions generalizing s with
  | nil => exact hactions
  | cons a as ih =>
    obtain ⟨ha, has⟩ := hactions
    refine ⟨?_, ih (h.act ha) has⟩
    cases a with
    | turn t =>
      cases t with
      | offer i => exact h.sparesSend i
      | _ => trivial
    | _ => trivial

/-- Where no capture is under way, the events of a capture are all there is to be sent. -/
lemma sparesCapture_of_alone {a : Action} (h : s.sparesAlone a) : s.sparesCapture a := by
  cases a with
  | capture side host flow moment =>
    intro hleft
    obtain ⟨hidle, hroom⟩ := h hleft
    rw [pending_eq_zero_of_idle hidle, Nat.zero_add]
    exact hroom
  | _ => trivial

/-! ### Captures from anywhere -/

lemma perform_eq_of_spared {actions actions' : List Action}
    (hactions : actions'.map Action.asTask = actions.map Action.asTask)
    (h : s.Throughout sparesSend actions) :
    (s.perform actions').pipeline = (s.perform actions).pipeline ∧
      (s.perform actions').held = (s.perform actions).held := by
  have heq := asTask_perform_eq hactions h
  exact ⟨congrArg (·.pipeline) heq, congrArg (·.held) heq⟩

/-- A capture does the same from wherever it comes, at a queue that drops what finds no slot, at a
closed one, and at one that has a slot for each of its events: it leaves the same pipeline, and it
says the same. It does the same in the middle of a run, too. From whatever state, if nobody would
have to wait for any of the sends of a run, then the captures of that run may come from anywhere
instead: the pipeline is the same in the end, with all its counters, the requests that wait and what
the transport was called with, and so is the event that the worker holds. And if there is no capture
under way in the beginning, it is enough that whenever a capture begins the queue drops what finds
no slot, or is closed, or has a slot for each of its events beside those that other captures have
still to send. -/
theorem hosts_interchangeable :
    (∀ (p : Pipeline σ) side flow moment,
      p.queue.Spares (p.eventsOf side flow moment).1.length →
      ∀ host host', p.capture side host flow moment = p.capture side host' flow moment) ∧
    ∀ (s : Parties σ) (actions actions' : List Action),
      actions'.map Action.asTask = actions.map Action.asTask →
      (s.Throughout sparesSend actions ∨
        s.idle ∧ s.queue.waiting = [] ∧ s.Throughout sparesCapture actions) →
      (s.perform actions').pipeline = (s.perform actions).pipeline ∧
        (s.perform actions').held = (s.perform actions).held := by
  refine ⟨fun p side flow moment h host host' => capture_eq_of_spares h host host', ?_⟩
  intro s actions actions' hactions hroom
  refine perform_eq_of_spared hactions ?_
  obtain hsends | ⟨hidle, hwaiting, hcaptures⟩ := hroom
  · exact hsends
  · exact throughout_of_spared (.of_idle hidle hwaiting) hcaptures

/-- A request is captured from the loop and a response by a task, or the other way round. The queue
would let them wait, but it has two slots and the worker makes room between the two captures. -/
theorem hosts_interchangeable_of_two_slots :
    let request : Flow := .simple ⟨"F1"⟩ "/a" false
    let response : Flow := .simple ⟨"F1"⟩ "/a" true
    let actions (host host' : Host) : List Action :=
      [.capture .request host request (.simple 0), .turn (.offer 0), .turn .wake, .turn (.offer 0),
        .turn .receive, .turn .deliver, .turn .receive, .turn .deliver,
        .capture .response host' response (.simple 1), .turn (.offer 0), .turn (.offer 0),
        .turn .receive, .turn .deliver]
    let s := new (Pipeline.new Script.transport.traced Settings.default (Script.new [] [], [])
      (Queue.new 2 .block))
    let s' := s.perform (actions .loop .task)
    (s.perform (actions .task .loop)).pipeline = s'.pipeline ∧
      s'.calls.length = 3 ∧ s'.queue.items.length = 1 := by
  intro request response actions s s'
  have hroom : s.Throughout sparesCapture (actions .loop .task) :=
    ⟨fun _ => .inr (.inr (by decide +kernel)), trivial, trivial, trivial, trivial, trivial,
      trivial, trivial, fun _ => .inr (.inr (by decide +kernel)), trivial, trivial, trivial,
      trivial, trivial⟩
  have h := hosts_interchangeable.2 s (actions .loop .task) (actions .task .loop) rfl
    (.inr ⟨⟨rfl, rfl⟩, rfl, hroom⟩)
  exact ⟨h.1, by decide +kernel, by decide +kernel⟩

/-- Captures that are made one at a time may come from anywhere as long as whenever one begins the
queue drops what finds no slot, or is closed, or has a slot for each of its own events. -/
theorem perform_eq_of_captures_alone {s : Parties σ} {actions actions' : List Action}
    (hactions : actions'.map Action.asTask = actions.map Action.asTask) (hidle : s.idle)
    (hwaiting : s.queue.waiting = []) (h : s.Throughout sparesAlone actions) :
    (s.perform actions').pipeline = (s.perform actions).pipeline ∧
      (s.perform actions').held = (s.perform actions).held :=
  perform_eq_of_spared hactions <| throughout_of_spared (.of_idle hidle hwaiting) <|
    h.mono fun _ _ => sparesCapture_of_alone

end Parties

end TrafficFeed
