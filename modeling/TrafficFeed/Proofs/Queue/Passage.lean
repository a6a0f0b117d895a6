import Mathlib.Data.List.Induction
import Mathlib.Data.List.Nodup
import Mathlib.Data.List.Perm.Basic
import TrafficFeed.Proofs.Queue.Relabel
import TrafficFeed.Proofs.Queue.Slots

/-!
# The passage through a queue

Sends, polls of waiting sends and receipts, the closing of the queue and the end of its producers,
in any order, for as long as the consumer is there. What is received is at every moment a beginning
of what has entered, in the order in which the sends were completed, and the rest of it is what is
inside: a send that failed or still waits has left nothing behind.

Equal items are told apart by the place of their send among the steps (`Parcel`). The marks are for
the observer alone: with and without them a queue does the same (`run_map`).
-/

namespace TrafficFeed.Queue

variable {α β : Type}

/-! ### Steps -/

/-- What can be done with a queue. -/
inductive Step (α : Type) where
  | send (way : Way) (a : α)
  /-- The waiting send at a place is polled. -/
  | poll (i : Nat)
  | receive
  | close
  /-- The producers leave. -/
  | orphan
  deriving DecidableEq, Repr

/-- What comes of a step. -/
inductive Answer (α : Type) where
  | sent (a : α) (r : Sent)
  | received (r : Received α)
  | nothing
  deriving DecidableEq, Repr

/-- Takes a step. Where no producer is left nobody sends. -/
def act (q : Queue α) : Step α → Answer α × Queue α
  | .send way a =>
    if q.orphaned then (.nothing, q) else (.sent a (q.enter way a).1, (q.enter way a).2)
  | .poll i =>
    match q.waiting[i]? with
    | some w => (.sent w.item (q.poll i).1, (q.poll i).2)
    | none => (.nothing, q)
  | .receive => (.received q.receive.1, q.receive.2)
  | .close => (.nothing, q.close)
  | .orphan => (.nothing, q.orphan)

/-- Takes steps in their order; what comes of them, the oldest first. -/
def run (q : Queue α) (steps : List (Step α)) : List (Answer α) × Queue α :=
  steps.foldl (fun s step => (s.1 ++ [(s.2.act step).1], (s.2.act step).2)) ([], q)

@[simp] lemma run_nil (q : Queue α) : q.run [] = ([], q) := rfl

lemma run_concat (q : Queue α) (steps : List (Step α)) (step : Step α) :
    q.run (steps ++ [step]) = ((q.run steps).1 ++ [((q.run steps).2.act step).1],
      ((q.run steps).2.act step).2) := by
  simp [run]

lemma run_cons (q : Queue α) (step : Step α) (steps : List (Step α)) :
    q.run (step :: steps) =
      ((q.act step).1 :: ((q.act step).2.run steps).1, ((q.act step).2.run steps).2) := by
  induction steps using List.reverseRecOn with
  | nil => rfl
  | append_singleton steps last ih => rw [← List.cons_append, run_concat, run_concat, ih]; rfl

/-! ### What has passed -/

namespace Answer

/-- The item whose send is completed. -/
def entered? : Answer α → Option α
  | .sent a .ok => some a
  | _ => none

/-- The item whose send has failed. -/
def refused? : Answer α → Option α
  | .sent a (.failed _) => some a
  | _ => none

/-- The item that is received. -/
def received? : Answer α → Option α
  | .received (.item a) => some a
  | _ => none

end Answer

/-- The items whose sends were completed, in the order in which they were. -/
def entered (answers : List (Answer α)) : List α := answers.filterMap Answer.entered?

def refused (answers : List (Answer α)) : List α := answers.filterMap Answer.refused?

def received (answers : List (Answer α)) : List α := answers.filterMap Answer.received?

/-- The items of the sends that wait. -/
def pending (q : Queue α) : List α := q.waiting.map (·.item)

/-! ### Marks -/

namespace Step

def map (f : α → β) : Step α → Step β
  | .send way a => .send way (f a)
  | .poll i => .poll i
  | .receive => .receive
  | .close => .close
  | .orphan => .orphan

end Step

def Answer.map (f : α → β) : Answer α → Answer β
  | .sent a r => .sent (f a) r
  | .received r => .received (r.map f)
  | .nothing => .nothing

lemma act_map (f : α → β) (q : Queue α) (step : Step α) :
    (q.map f).act (step.map f) = ((q.act step).1.map f, (q.act step).2.map f) := by
  cases step with
  | send way a =>
    simp only [Step.map, act, orphaned_map, map_enter]
    split <;> rfl
  | poll i =>
    simp only [Step.map, act, waiting_map, List.getElem?_map, map_poll]
    cases q.waiting[i]? <;> rfl
  | receive => simp only [Step.map, act, map_receive, Answer.map]
  | close => rfl
  | orphan => simp only [Step.map, act, map_orphan, Answer.map]

/-- A run takes the same course, whatever is sent in it. -/
lemma run_map (f : α → β) (q : Queue α) (steps : List (Step α)) :
    (q.map f).run (steps.map (Step.map f)) =
      ((q.run steps).1.map (Answer.map f), (q.run steps).2.map f) := by
  induction steps using List.reverseRecOn with
  | nil => rfl
  | append_singleton steps step ih =>
    rw [List.map_append, List.map_singleton, run_concat, run_concat, ih, act_map]
    simp

/-- An item with the place of its send among the steps of a run. -/
structure Parcel (α : Type) where
  number : Nat
  item : α
  deriving DecidableEq, Repr

/-- The steps of a run, with the items that are sent marked. -/
def numbered (steps : List (Step α)) : List (Step (Parcel α)) :=
  steps.mapIdx fun n step => step.map (Parcel.mk n)

lemma numbered_concat (steps : List (Step α)) (step : Step α) :
    numbered (steps ++ [step]) = numbered steps ++ [step.map (Parcel.mk steps.length)] := by
  simp [numbered, List.mapIdx_append]

lemma map_item_numbered (steps : List (Step α)) :
    (numbered steps).map (Step.map Parcel.item) = steps := by
  induction steps using List.reverseRecOn with
  | nil => rfl
  | append_singleton steps step ih =>
    rw [numbered_concat, List.map_append, ih]
    cases step <;> rfl

/-- Marks below `n`, each at most once. -/
structure Marked (n : Nat) (ps : List (Parcel α)) : Prop where
  nodup : (ps.map Parcel.number).Nodup
  lt : ∀ p ∈ ps, p.number < n

lemma Marked.perm {n : Nat} {ps qs : List (Parcel α)} (h : Marked n ps) (hperm : qs.Perm ps) :
    Marked n qs where
  nodup := (hperm.map Parcel.number).nodup_iff.mpr h.nodup
  lt := fun p hp => h.lt p (hperm.mem_iff.mp hp)

lemma Marked.sublist {n : Nat} {ps qs : List (Parcel α)} (h : Marked n ps)
    (hsub : qs.Sublist ps) : Marked n qs where
  nodup := (hsub.map Parcel.number).nodup h.nodup
  lt := fun p hp => h.lt p (hsub.subset hp)

lemma Marked.mono {n m : Nat} {ps : List (Parcel α)} (h : Marked n ps) (hle : n ≤ m) :
    Marked m ps where
  nodup := h.nodup
  lt := fun p hp => Nat.lt_of_lt_of_le (h.lt p hp) hle

/-- The next mark is new. -/
lemma Marked.cons {n : Nat} {ps : List (Parcel α)} (h : Marked n ps) (a : α) :
    Marked (n + 1) (⟨n, a⟩ :: ps) where
  nodup := by
    rw [List.map_cons, List.nodup_cons]
    refine ⟨fun hmem => ?_, h.nodup⟩
    obtain ⟨p, hp, hn⟩ := List.mem_map.mp hmem
    exact absurd hn (Nat.ne_of_lt (h.lt p hp))
  lt := by
    intro p hp
    rcases List.mem_cons.mp hp with rfl | hp
    · exact Nat.lt_succ_self n
    · exact Nat.lt_succ_of_lt (h.lt p hp)

/-! ### What a run keeps -/

/-- Every item whose send is completed, has failed, or waits. -/
def fates (answers : List (Answer α)) (q : Queue α) : List α :=
  entered answers ++ refused answers ++ q.pending

section

variable (answers : List (Answer α)) (answer : Answer α)

@[simp] lemma entered_concat :
    entered (answers ++ [answer]) = entered answers ++ answer.entered?.toList := by
  cases h : answer.entered? <;> simp [entered, h]

@[simp] lemma refused_concat :
    refused (answers ++ [answer]) = refused answers ++ answer.refused?.toList := by
  cases h : answer.refused? <;> simp [refused, h]

@[simp] lemma received_concat :
    received (answers ++ [answer]) = received answers ++ answer.received?.toList := by
  cases h : answer.received? <;> simp [received, h]

end

@[simp] lemma pending_push (q : Queue α) (a : α) : (q.push a).pending = q.pending := rfl

@[simp] lemma pending_release (q : Queue α) : q.release.pending = q.pending :=
  map_item_release q

/-- What has been refused is one more. -/
lemma perm_refused (l m k : List α) (a : α) : (l ++ (m ++ [a]) ++ k).Perm (a :: (l ++ m ++ k)) := by
  have hmid : (l ++ m ++ a :: k).Perm (a :: (l ++ m ++ k)) := List.perm_middle
  simpa using hmid

/-- A waiting send leaves the line. -/
lemma fates_perm (answers : List (Answer α)) {q : Queue α} {i : Nat} {w : Waiter α}
    (hw : q.waiting[i]? = some w) :
    (w.item :: (entered answers ++ refused answers ++ (q.waiting.eraseIdx i).map (·.item))).Perm
      (fates answers q) := by
  obtain ⟨hi, rfl⟩ := List.getElem?_eq_some_iff.mp hw
  have hperm := (List.getElem_cons_eraseIdx_perm hi).map (·.item)
  exact List.perm_middle.symm.trans (hperm.append_left _)

/-- What holds of the first `n` steps of a run with marks. -/
structure Passed (n : Nat) (answers : List (Answer (Parcel α))) (q : Queue (Parcel α)) :
    Prop where
  balanced : Balanced q
  left : q.orphaned = true → q.waiting = []
  order : received answers ++ q.items = entered answers
  marked : Marked n (fates answers q)

variable {n : Nat} {answers : List (Answer (Parcel α))} {q q' : Queue (Parcel α)}

lemma Passed.new (capacity : Nat) (policy : Policy) :
    Passed 0 [] (Queue.new capacity policy : Queue (Parcel α)) where
  balanced := .new capacity policy
  left _ := rfl
  order := rfl
  marked := ⟨List.nodup_nil, fun _ hp => absurd hp List.not_mem_nil⟩

/-- A new item enters, is refused, or waits. -/
lemma Passed.sends (h : Passed n answers q) (hleft : q.orphaned = false) {way : Way} {a : α}
    {r : Sent} (he : Entry q way ⟨n, a⟩ r q') :
    Passed (n + 1) (answers ++ [.sent ⟨n, a⟩ r]) q' := by
  have hmarked := h.marked.cons a
  have hbalanced := h.balanced.entry he
  cases he with
  | closed | full | stuck =>
    refine ⟨hbalanced, h.left, ?_, hmarked.perm ?_⟩
    · simpa [Answer.received?, Answer.entered?] using h.order
    · simpa [fates, Answer.entered?, Answer.refused?] using perm_refused _ _ _ _
  | enters hopen hfree =>
    refine ⟨hbalanced, by simp [push, hleft], ?_, hmarked.perm ?_⟩
    · simp [Answer.received?, Answer.entered?, push, ← h.order]
    · simp [fates, Answer.entered?, Answer.refused?]
  | waits hopen hfree =>
    refine ⟨hbalanced, by simp [hleft], ?_, hmarked.perm ?_⟩
    · simpa [Answer.received?, Answer.entered?] using h.order
    · simpa [fates, pending, Answer.entered?, Answer.refused?] using
        List.perm_append_singleton ⟨n, a⟩ (fates answers q)

/-- The item of a waiting send enters or is refused, or goes on waiting. -/
lemma Passed.polls (h : Passed n answers q) {i : Nat} {w : Waiter (Parcel α)}
    (hw : q.waiting[i]? = some w) {r : Sent} (hp : Poll q i r q') :
    Passed n (answers ++ [.sent w.item r]) q' := by
  have hbalanced := h.balanced.poll hp
  have hleft : q.orphaned = false := by
    by_contra hne
    simp [h.left (by simpa using hne)] at hw
  have hperm := fates_perm answers hw
  cases hp with
  | pending =>
    refine ⟨hbalanced, h.left, ?_, ?_⟩
    · simpa [Answer.received?, Answer.entered?] using h.order
    · simpa [fates, Answer.entered?, Answer.refused?] using h.marked
  | enters v hv hopen hready =>
    obtain rfl : w = v := by simpa [hw] using hv
    refine ⟨hbalanced, by simp [hleft], ?_, h.marked.perm ?_⟩
    · simp [Answer.received?, Answer.entered?, ← h.order]
    · refine List.Perm.trans ?_ hperm
      simp [fates, pending, Answer.entered?, Answer.refused?]
  | fails v hv hclosed =>
    obtain rfl : w = v := by simpa [hw] using hv
    refine ⟨hbalanced, by simp [hleft], ?_, h.marked.perm ?_⟩
    · simpa [Answer.received?, Answer.entered?] using h.order
    · refine List.Perm.trans ?_ hperm
      simpa [fates, pending, Answer.entered?, Answer.refused?] using perm_refused _ _ _ _

/-- The oldest item is received, if there is one. -/
lemma Passed.receives (h : Passed n answers q) {r : Received (Parcel α)} (hr : Receipt q r q') :
    Passed n (answers ++ [.received r]) q' := by
  have hbalanced := h.balanced.receipt hr
  cases hr with
  | item a items hitems =>
    refine ⟨hbalanced, fun hleft => ?_, ?_, ?_⟩
    · have hwaiting := h.left (by simpa using hleft)
      exact List.map_eq_nil_iff.mp ((map_item_release { q with items }).trans (by simp [hwaiting]))
    · simpa [Answer.received?, Answer.entered?, hitems] using h.order
    · simpa [fates, pending, Answer.entered?, Answer.refused?] using h.marked
  | pending | finished =>
    refine ⟨hbalanced, h.left, ?_, ?_⟩
    · simpa [Answer.received?, Answer.entered?] using h.order
    · simpa [fates, Answer.entered?, Answer.refused?] using h.marked

/-- A step without an answer that takes no item away. -/
lemma Passed.silent (h : Passed n answers q) (hbalanced : Balanced q')
    (hleft : q'.orphaned = true → q'.waiting = []) (hitems : q'.items = q.items)
    (hpending : q'.pending.Sublist q.pending) : Passed n (answers ++ [.nothing]) q' where
  balanced := hbalanced
  left := hleft
  order := by simpa [Answer.received?, Answer.entered?, hitems] using h.order
  marked := by
    apply h.marked.sublist
    simpa [fates, Answer.entered?, Answer.refused?] using
      (hpending.append_left (refused answers)).append_left (entered answers)

/-- A step that sends nothing uses no mark. -/
lemma Passed.later (h : Passed n answers q) : Passed (n + 1) answers q :=
  ⟨h.balanced, h.left, h.order, h.marked.mono (Nat.le_succ n)⟩

lemma Passed.act (h : Passed n answers q) (step : Step α) :
    Passed (n + 1) (answers ++ [(q.act (step.map (Parcel.mk n))).1])
      (q.act (step.map (Parcel.mk n))).2 := by
  cases step with
  | send way a =>
    cases hleft : q.orphaned with
    | true =>
      simpa [Step.map, Queue.act, hleft] using
        (h.silent h.balanced h.left rfl (List.Sublist.refl _)).later
    | false =>
      simpa [Step.map, Queue.act, hleft] using h.sends hleft (Entry.of_enter q way ⟨n, a⟩)
  | poll i =>
    simp only [Step.map, Queue.act]
    cases hw : q.waiting[i]? with
    | none => exact (h.silent h.balanced h.left rfl (List.Sublist.refl _)).later
    | some w => exact (h.polls hw (Poll.of_poll q i)).later
  | receive => exact (h.receives (Receipt.of_receive q)).later
  | close => exact (h.silent h.balanced.close h.left rfl (List.Sublist.refl _)).later
  | orphan =>
    exact (h.silent h.balanced.orphan (fun _ => rfl) rfl (List.nil_sublist _)).later

lemma Passed.run (capacity : Nat) (policy : Policy) (steps : List (Step α)) :
    let result := (Queue.new capacity policy).run (numbered steps)
    Passed steps.length result.1 result.2 := by
  induction steps using List.reverseRecOn with
  | nil => exact .new capacity policy
  | append_singleton steps step ih =>
    rw [numbered_concat, run_concat, List.length_append]
    exact ih.act step

/-- A queue is finished once it is closed or without producers, and neither an item nor a waiting
send has a slot. -/
lemma receive_eq_finished_iff {q : Queue α} (hbalanced : Balanced q)
    (hleft : q.orphaned = true → q.waiting = []) :
    q.receive.1 = .finished ↔
      (q.closed = true ∨ q.orphaned = true) ∧ q.items = [] ∧ heldSlots q.waiting = 0 := by
  unfold receive
  cases hitems : q.items with
  | cons a items => simp
  | nil =>
    have hfree : q.free = q.capacity ↔ heldSlots q.waiting = 0 := by
      simp only [Balanced, hitems, List.length_nil] at hbalanced
      omega
    cases horphaned : q.orphaned with
    | true => simp [hleft horphaned]
    | false =>
      by_cases hheld : heldSlots q.waiting = 0 <;> cases q.closed <;> simp [hfree, hheld]

/-- Whatever is done with a queue, what is received is at every moment a beginning of what has
entered, in the order in which the sends were completed, and the rest of it is what is inside. No
item is received twice, and none whose send has failed or waits. The queue is finished exactly
where it is closed or without producers, and neither an item nor a waiting send has a slot. The
marks that tell the items apart leave the run as it is. -/
theorem received_run (capacity : Nat) (policy : Policy) (steps : List (Step α)) :
    let run := (Queue.new capacity policy).run (numbered steps)
    let answers := run.1
    let q := run.2
    (Queue.new capacity policy).run steps =
      (answers.map (Answer.map Parcel.item), q.map Parcel.item) ∧
    received answers ++ q.items = entered answers ∧
    ((received answers).map Parcel.number).Nodup ∧
    (∀ p ∈ received answers, ∀ p' ∈ refused answers ++ q.pending, p.number ≠ p'.number) ∧
    (q.receive.1 = .finished ↔
      (q.closed = true ∨ q.orphaned = true) ∧ q.items = [] ∧ heldSlots q.waiting = 0) := by
  intro run answers q
  have h : Passed steps.length answers q := Passed.run capacity policy steps
  have hnodup := h.marked.nodup
  rw [fates, List.append_assoc, ← h.order, List.append_assoc, List.map_append] at hnodup
  refine ⟨?marks, h.order, hnodup.of_append_left, ?apart,
    receive_eq_finished_iff h.balanced h.left⟩
  case marks =>
    have hmap := run_map Parcel.item (Queue.new capacity policy) (numbered steps)
    rwa [map_item_numbered, map_new] at hmap
  case apart =>
    intro p hp p' hp' heq
    have hdisjoint := List.disjoint_of_nodup_append hnodup
    have hmem := List.mem_map_of_mem (f := Parcel.number) (List.mem_append_right q.items hp')
    exact hdisjoint (List.mem_map_of_mem hp) (heq ▸ hmem)

/-- Two sends are completed, and a third waits. Two receipts later it holds a slot, but has not
been polled, and a fourth send overtakes it. -/
example :
    entered ((Queue.new 2 .block).run [.send .task 1, .send .task 2, .send .task 3, .receive,
      .receive, .send .attempt 4, .poll 0]).1 = [1, 2, 4, 3] := by
  decide

/-! ### All waiting sends at once -/

/-- The waiting sends `ws` stand behind those of the queue. -/
def behind (q : Queue α) (ws : List (Waiter α)) : Queue α :=
  { q with waiting := q.waiting ++ ws }

/-- The first of them is polled. -/
lemma act_poll_behind (q : Queue α) (w : Waiter α) (ws : List (Waiter α)) :
    (q.behind (w :: ws)).act (.poll q.waiting.length) =
      (.sent w.item (q.resume w).1, (q.resume w).2.behind ws) := by
  have hw : (q.behind (w :: ws)).waiting[q.waiting.length]? = some w := by simp [behind]
  have herase : (q.behind (w :: ws)).waiting.eraseIdx q.waiting.length = q.waiting ++ ws := by
    simp [behind, List.eraseIdx_append_of_length_le]
  simp only [act, poll, hw, herase]
  cases h : q.closed <;> cases hready : w.ready <;> simp [behind, resume, h, hready]

/-- Resuming every waiting send once is polling one after the other. -/
theorem exists_run_eq_resumeAll (q : Queue α) : ∃ places : List Nat,
    q.run (places.map .poll) = (q.resumeAll.1.map fun s => .sent s.1 s.2, q.resumeAll.2) := by
  have heach : ∀ (ws : List (Waiter α)) (q : Queue α), ∃ places : List Nat,
      (q.behind ws).run (places.map .poll) =
        ((resumeEach ws q).1.map fun s => .sent s.1 s.2, (resumeEach ws q).2) := by
    intro ws
    induction ws with
    | nil => exact fun q => ⟨[], by simp [resumeEach, behind]⟩
    | cons w ws ih =>
      intro q
      obtain ⟨places, hrun⟩ := ih (q.resume w).2
      refine ⟨q.waiting.length :: places, ?_⟩
      rw [List.map_cons, run_cons, act_poll_behind, hrun]
      rfl
  exact heach q.waiting { q with waiting := [] }

end TrafficFeed.Queue
