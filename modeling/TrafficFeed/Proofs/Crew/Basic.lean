import TrafficFeed.Proofs.Parties.Smooth

/-!
# Crews

Several capture threads share one forwarder. Each has a list of flows of its own and captures, one
flow after the other, first the request and then the response; it goes on to its next capture when
it has sent the events of the last. The steps of all threads, of the worker and of the sweeper may
follow one another in any order. The end is asked for when every thread is done.
-/

namespace TrafficFeed

open TrafficFeed.Pipeline TrafficFeed.Transport

variable {σ : Type}

/-- A flow as it is when its request is captured, and when its response is. -/
structure Exchange where
  asked : Flow
  answered : Flow
  response : Http.Response
  same : answered.id = asked.id
  responds : answered.response = some response

def Exchange.id (x : Exchange) : FlowId := x.asked.id

/-- The request and the response of a simple flow. -/
def Exchange.simple (id : FlowId) (path : String) : Exchange where
  asked := .simple id path false
  answered := .simple id path true
  response := (Flow.simple id path true).response.get rfl
  same := rfl
  responds := rfl

/-! ### Threads -/

/-- A capture thread that may wait: the flows it is done with, the one whose response is to come,
and those it has still to turn to. -/
structure Thread where
  host : Host
  waits : host ≠ .loop
  /-- The name of the producer of its latest capture. -/
  last : Option Nat
  done : List Exchange
  awaited : Option Exchange
  later : List Exchange

namespace Thread

def new (host : Host) (waits : host ≠ .loop) (exchanges : List Exchange) : Thread :=
  ⟨host, waits, none, [], none, exchanges⟩

def exchanges (th : Thread) : List Exchange := th.done ++ th.awaited.toList ++ th.later

/-- Whether a thread has made all its captures. -/
def Finished (th : Thread) : Prop := th.awaited = none ∧ th.later = []

instance (th : Thread) : Decidable th.Finished :=
  decidable_of_iff (th.awaited.isNone ∧ th.later.isEmpty) (by simp [Finished])

/-- The next capture of a thread, and the thread after it. -/
def next? (th : Thread) : Option (Direction × Flow × Thread) :=
  match th.awaited, th.later with
  | some x, _ => some (.response, x.answered, { th with done := th.done ++ [x], awaited := none })
  | none, x :: later => some (.request, x.asked, { th with awaited := some x, later })
  | none, [] => none

/-- Whether the events of a thread's latest capture are still being sent. -/
def Busy (s : Parties σ) (th : Thread) : Prop := ∃ p ∈ s.workers, th.last = some p.name

instance (s : Parties σ) (th : Thread) : Decidable (th.Busy s) :=
  inferInstanceAs (Decidable (∃ p ∈ s.workers, _))

end Thread

/-! ### Steps -/

/-- The parties to a forwarder, and the threads whose captures they are. -/
structure Crew (σ : Type) where
  parties : Parties σ
  threads : List Thread

namespace Crew

/-- Threads about to begin, at a pipeline that no party has touched. -/
def new (p : Pipeline σ) (threads : List Thread) : Crew σ := ⟨.new p, threads⟩

def exchanges (c : Crew σ) : List Exchange := c.threads.flatMap Thread.exchanges

/-- Whether every thread has made its captures and sent their events. -/
def Done (c : Crew σ) : Prop := (∀ th ∈ c.threads, th.Finished) ∧ c.parties.idle

instance (c : Crew σ) : Decidable c.Done := inferInstanceAs (Decidable (_ ∧ _))

/-- Whether there is nothing left to do for anyone. -/
def Complete (c : Crew σ) : Prop := c.Done ∧ c.parties.pipeline.worker = .stopped

instance (c : Crew σ) : Decidable c.Complete := inferInstanceAs (Decidable (_ ∧ _))

/-- Something that a thread, the sweeper, the worker or a producer does. -/
inductive Step where
  | capture (i : Nat) (moment : Moment)
  | sweep (now : Nat)
  | turn (t : Parties.Turn)

/-- A thread makes its next capture, unless it is busy or has none. -/
def capture (c : Crew σ) (i : Nat) (moment : Moment) : Crew σ :=
  match c.threads[i]? with
  | none => c
  | some th =>
    if th.Busy c.parties then c
    else match th.next? with
      | none => c
      | some (side, flow, th') =>
        ⟨c.parties.act (.capture side th.host flow moment),
          c.threads.set i { th' with last := some c.parties.born }⟩

def act (c : Crew σ) : Step → Crew σ
  | .capture i moment => c.capture i moment
  | .sweep now => { c with parties := c.parties.sweep now }
  | .turn .cancel => if c.Done then { c with parties := c.parties.cancel } else c
  | .turn t => { c with parties := c.parties.turn t }

def run (c : Crew σ) (steps : List Step) : Crew σ := steps.foldl act c

/-! ### Clocks -/

/-- The reading of the clock that a step goes by. -/
def Step.reading? : Step → Option Nat
  | .capture _ moment => some moment.stamp
  | .sweep now => some now
  | .turn _ => none

/-- Whether no request has waited for its time to live at the reading of a step. -/
def Prompt (c : Crew σ) (a : Step) : Prop :=
  ∀ now ∈ a.reading?, c.parties.pipeline.cache.AllFresh now

instance (c : Crew σ) (a : Step) : Decidable (c.Prompt a) :=
  inferInstanceAs (Decidable (∀ now ∈ a.reading?, _))

/-- Whether no request waits for its time to live at any reading of the clock. -/
def Timely (c : Crew σ) : List Step → Prop
  | [] => True
  | a :: steps => c.Prompt a ∧ (c.act a).Timely steps

instance instDecidableTimely (c : Crew σ) : (steps : List Step) → Decidable (c.Timely steps)
  | [] => isTrue trivial
  | a :: steps =>
    have := instDecidableTimely (c.act a) steps
    inferInstanceAs (Decidable (_ ∧ _))

/-! ### What a step can do -/

variable {c c' : Crew σ} {a : Step}

@[simp] lemma run_nil (c : Crew σ) : c.run [] = c := rfl

@[simp] lemma run_cons (c : Crew σ) (a : Step) (steps : List Step) :
    c.run (a :: steps) = (c.act a).run steps := rfl

lemma run_append (c : Crew σ) (steps more : List Step) :
    c.run (steps ++ more) = (c.run steps).run more := by
  simp [run]

lemma timely_append (c : Crew σ) (steps more : List Step) :
    c.Timely (steps ++ more) ↔ c.Timely steps ∧ (c.run steps).Timely more := by
  induction steps generalizing c with
  | nil => simp [Timely]
  | cons a steps ih => simp [Timely, ih, and_assoc]

end Crew

/-- The two captures that a thread can make next. -/
inductive Thread.Next (th : Thread) : Direction → Flow → Thread → Prop where
  | asks (x : Exchange) (later : List Exchange) (hawaited : th.awaited = none)
      (hlater : th.later = x :: later) :
      Next th .request x.asked { th with awaited := some x, later }
  | answers (x : Exchange) (hawaited : th.awaited = some x) :
      Next th .response x.answered { th with done := th.done ++ [x], awaited := none }

lemma Thread.Next.of_next? {th th' : Thread} {side : Direction} {flow : Flow}
    (h : th.next? = some (side, flow, th')) : th.Next side flow th' := by
  unfold next? at h
  split at h
  · next x hawaited =>
    cases h
    exact .answers x hawaited
  · next x later hawaited hlater =>
    cases h
    exact .asks x later hawaited hlater
  · cases h

/-- A capture leaves the flows of a thread and their order as they are. -/
lemma Thread.Next.exchanges_eq {th th' : Thread} {side : Direction} {flow : Flow}
    (h : th.Next side flow th') : th'.exchanges = th.exchanges := by
  cases h with
  | asks x later hawaited hlater => simp [exchanges, hawaited, hlater]
  | answers x hawaited => simp [exchanges, hawaited]

/-- A thread that is not finished has a next capture. -/
lemma Thread.exists_next? {th : Thread} (h : ¬ th.Finished) :
    ∃ side flow th', th.next? = some (side, flow, th') := by
  unfold next?
  cases hawaited : th.awaited with
  | some x => exact ⟨_, _, _, rfl⟩
  | none =>
    cases hlater : th.later with
    | nil => exact absurd ⟨hawaited, hlater⟩ h
    | cons x later => exact ⟨_, _, _, rfl⟩

namespace Crew

variable {c c' : Crew σ} {a : Step}

/-- All that a step can do. -/
inductive Acted (c : Crew σ) : Step → Crew σ → Prop where
  | nothing (a : Step) : Acted c a c
  | captures (i : Nat) (moment : Moment) (th th' : Thread) (side : Direction) (flow : Flow)
      (hth : c.threads[i]? = some th) (hfree : ¬ th.Busy c.parties)
      (hnext : th.Next side flow th') :
      Acted c (.capture i moment) ⟨c.parties.act (.capture side th.host flow moment),
        c.threads.set i { th' with last := some c.parties.born }⟩
  | sweeps (now : Nat) : Acted c (.sweep now) { c with parties := c.parties.sweep now }
  /-- The end is asked for. -/
  | cancels (h : c.Done) : Acted c (.turn .cancel) { c with parties := c.parties.cancel }
  | turns (t : Parties.Turn) (s : Parties σ) (h : Parties.Turned c.parties s)
      (hcancelled : s.cancelled = c.parties.cancelled) :
      Acted c (.turn t) { c with parties := s }

lemma cancelled_turn (s : Parties σ) {t : Parties.Turn} (h : t ≠ .cancel) :
    (s.turn t).cancelled = s.cancelled := by
  have hconclude : ∀ (s : Parties σ) p sent, (s.conclude p sent).cancelled = s.cancelled := by
    intro s p sent
    cases sent <;> rfl
  cases t with
  | offer i =>
    simp only [Parties.turn, Parties.offer]
    split
    · rfl
    · exact hconclude _ _ _
  | resume i =>
    simp only [Parties.turn, Parties.resume]
    split
    · rfl
    · rfl
    · exact hconclude _ _ _
  | cancel => exact absurd rfl h
  | wake => rfl
  | receive =>
    simp only [Parties.turn, Parties.receive]
    split
    · split <;> rfl
    · rfl
  | close =>
    simp only [Parties.turn, Parties.close]
    split <;> rfl
  | deliver =>
    simp only [Parties.turn, Parties.deliver]
    split <;> rfl

lemma act_turn (c : Crew σ) {t : Parties.Turn} (h : t ≠ .cancel) :
    c.act (.turn t) = { c with parties := c.parties.turn t } := by
  cases t with
  | cancel => exact absurd rfl h
  | offer | resume | wake | receive | close | deliver => rfl

lemma Acted.of_act (c : Crew σ) (a : Step) : Acted c a (c.act a) := by
  cases a with
  | capture i moment =>
    simp only [act, capture]
    split
    · exact .nothing _
    · next th hth =>
      split
      · exact .nothing _
      · next hfree =>
        split
        · exact .nothing _
        · next side flow th' hnext =>
          exact .captures i moment th th' side flow hth hfree (.of_next? hnext)
  | sweep now => exact .sweeps now
  | turn t =>
    by_cases h : t = .cancel
    · subst h
      simp only [act]
      split
      · next hdone => exact .cancels hdone
      · exact .nothing _
    · rw [act_turn c h]
      exact .turns t _ (.of_turn _ t) (cancelled_turn _ h)

/-- What every step keeps, every run keeps in which no request waits too long. -/
lemma run_induction {P : Crew σ → Prop} (hc : P c)
    (hact : ∀ c a c', P c → c.Prompt a → Acted c a c' → P c') (steps : List Step)
    (h : c.Timely steps) : P (c.run steps) := by
  induction steps generalizing c with
  | nil => exact hc
  | cons a steps ih => exact ih (hact c a _ hc h.1 (.of_act c a)) h.2

/-! ### Threads in a list -/

/-- A thread of a list that is replaced, and the others. -/
lemma exists_perm_set {α : Type} {l : List α} {i : Nat} {x : α} (h : l[i]? = some x) (y : α) :
    ∃ others, l.Perm (x :: others) ∧ (l.set i y).Perm (y :: others) := by
  obtain ⟨hi, hx⟩ := List.getElem?_eq_some_iff.mp h
  refine ⟨l.take i ++ l.drop (i + 1), ?_, ?_⟩
  · have hl : l = l.take i ++ x :: l.drop (i + 1) := by
      rw [← hx, ← List.drop_eq_getElem_cons hi, List.take_append_drop]
    exact (List.Perm.of_eq hl).trans List.perm_middle
  · rw [List.set_eq_take_append_cons_drop, if_pos hi]
    exact List.perm_middle

/-- A thread in the place of another with the same flows. -/
lemma flatMap_exchanges_set {threads : List Thread} {i : Nat} {th th' : Thread}
    (h : threads[i]? = some th) (hsame : th'.exchanges = th.exchanges) :
    ((threads.set i th').flatMap Thread.exchanges).Perm (threads.flatMap Thread.exchanges) := by
  obtain ⟨others, hbefore, hafter⟩ := exists_perm_set h th'
  refine (hafter.flatMap_right _).trans (.trans ?_ (hbefore.flatMap_right _).symm)
  rw [List.flatMap_cons, List.flatMap_cons, hsame]

lemma Acted.exchanges_perm (h : Acted c a c') : c'.exchanges.Perm c.exchanges := by
  cases h with
  | nothing | sweeps | cancels | turns => exact .refl _
  | captures i moment th th' side flow hth hfree hnext =>
    have hsame : Thread.exchanges { th' with last := some c.parties.born } = th.exchanges :=
      hnext.exchanges_eq
    exact flatMap_exchanges_set hth hsame

/-- Whatever the threads do, the flows are the same in all. -/
lemma exchanges_run (c : Crew σ) (steps : List Step) :
    (c.run steps).exchanges.Perm c.exchanges := by
  induction steps generalizing c with
  | nil => exact .refl _
  | cons a steps ih => exact (ih (c.act a)).trans (Acted.of_act c a).exchanges_perm

end Crew

end TrafficFeed
