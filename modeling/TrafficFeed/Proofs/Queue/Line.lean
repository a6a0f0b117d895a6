import TrafficFeed.Proofs.Queue.Passage

/-!
# The line of waiting sends

A slot moves between three places: it is free, an item has it, or a waiting send holds it. Sends
wait in the order in which they began to, and those that hold a slot stand before those that do not.
So a slot that is given back goes to the send that has waited longest without one, and as long as
there is such a send at an open queue, no slot is free for anybody else.

A queue that is closed gives no slots away any more. Once every send that waited has been polled,
what is taken is taken by items alone, and these are all that is still to be received.
-/

namespace TrafficFeed.Queue

variable {α : Type}

/-! ### Who holds a slot -/

/-- The items of the waiting sends that hold a slot. -/
def holding (q : Queue α) : List α := (q.waiting.filter (·.ready)).map (·.item)

/-- What a slot is granted to: the first send without one. -/
lemma exists_of_grant? {ws granted : List (Waiter α)} (h : grant? ws = some granted) :
    ∃ front w back, ws = front ++ w :: back ∧ (∀ v ∈ front, v.ready = true) ∧ w.ready = false ∧
      granted = front ++ { w with ready := true } :: back := by
  induction ws generalizing granted with
  | nil => simp [grant?] at h
  | cons w ws ih =>
    simp only [grant?] at h
    split at h
    · next hready =>
      obtain ⟨rest, hrest, rfl⟩ := Option.map_eq_some_iff.mp h
      obtain ⟨front, v, back, rfl, hfront, hv, rfl⟩ := ih hrest
      refine ⟨w :: front, v, back, rfl, fun u hu => ?_, hv, rfl⟩
      rcases List.mem_cons.mp hu with rfl | hu
      · exact hready
      · exact hfront u hu
    · next hready =>
      cases h
      exact ⟨[], w, ws, rfl, fun v hv => absurd hv List.not_mem_nil, by simpa using hready, rfl⟩

/-- All that the return of a slot can do to the waiting sends. -/
lemma waiting_release (q : Queue α) : q.release.waiting = q.waiting ∨ q.closed = false ∧
    ∃ front w back, q.waiting = front ++ w :: back ∧ (∀ v ∈ front, v.ready = true) ∧
      w.ready = false ∧ q.release.waiting = front ++ { w with ready := true } :: back := by
  cases hclosed : q.closed with
  | true => exact .inl (by simp [release, hclosed])
  | false =>
    cases hg : grant? q.waiting with
    | none => exact .inl (by simp [release, hclosed, hg])
    | some granted =>
      obtain ⟨front, w, back, hwaiting, hfront, hw, rfl⟩ := exists_of_grant? hg
      exact .inr ⟨rfl, front, w, back, hwaiting, hfront, hw, by simp [release, hclosed, hg]⟩

/-! ### What no step changes -/

section

variable {q q' : Queue α}

lemma Entry.capacity_eq {way : Way} {a : α} {r : Sent} (h : Entry q way a r q') :
    q'.capacity = q.capacity ∧ q'.policy = q.policy := by
  cases h <;> exact ⟨rfl, rfl⟩

lemma Poll.capacity_eq {i : Nat} {r : Sent} (h : Poll q i r q') :
    q'.capacity = q.capacity ∧ q'.policy = q.policy := by
  cases h <;> exact ⟨rfl, rfl⟩

lemma Receipt.capacity_eq {r : Received α} (h : Receipt q r q') :
    q'.capacity = q.capacity ∧ q'.policy = q.policy := by
  cases h with
  | item => exact ⟨capacity_release _, policy_release _⟩
  | pending | finished => exact ⟨rfl, rfl⟩

end

lemma capacity_act (q : Queue α) (step : Step α) :
    (q.act step).2.capacity = q.capacity ∧ (q.act step).2.policy = q.policy := by
  cases step with
  | send way a =>
    simp only [act]
    split
    · exact ⟨rfl, rfl⟩
    · exact (Entry.of_enter q way a).capacity_eq
  | poll i =>
    simp only [act]
    split
    · exact (Poll.of_poll q i).capacity_eq
    · exact ⟨rfl, rfl⟩
  | receive => exact (Receipt.of_receive q).capacity_eq
  | close | orphan => exact ⟨rfl, rfl⟩

lemma capacity_run (q : Queue α) (steps : List (Step α)) :
    (q.run steps).2.capacity = q.capacity ∧ (q.run steps).2.policy = q.policy := by
  induction steps using List.reverseRecOn with
  | nil => exact ⟨rfl, rfl⟩
  | append_singleton steps step ih =>
    rw [run_concat]
    obtain ⟨hcapacity, hpolicy⟩ := capacity_act (q.run steps).2 step
    exact ⟨hcapacity.trans ih.1, hpolicy.trans ih.2⟩

/-! ### No free slot is withheld from the line -/

section

variable {q q' : Queue α}

lemma Eager.entry (h : Eager q) {way : Way} {a : α} {r : Sent} (he : Entry q way a r q') :
    Eager q' := by
  cases he with
  | closed | full | stuck => exact h
  | enters hopen hfree => exact fun _ _ => h hopen hfree
  | waits hopen hfree => exact fun _ hne => absurd hfree hne

lemma Eager.poll (h : Eager q) {i : Nat} {r : Sent} (hp : Poll q i r q') : Eager q' := by
  cases hp with
  | pending => exact h
  | enters => exact fun hopen hfree w hw => h hopen hfree w (List.mem_of_mem_eraseIdx hw)
  | fails w hw hclosed => exact fun hopen => by simp [hclosed] at hopen

lemma Eager.receipt (h : Eager q) {r : Received α} (hr : Receipt q r q') : Eager q' := by
  cases hr with
  | item a items hitems => exact Eager.release (q := { q with items }) h
  | pending | finished => exact h

/-- What enters at once takes a free slot. -/
lemma Entry.free_ne_zero {way : Way} {a : α} {r : Sent} (h : Entry q way a r q') (hr : r = .ok) :
    q.free ≠ 0 := by
  cases h with
  | enters _ hfree => exact hfree
  | closed | full | stuck | waits => cases hr

/-- Where a send waits without a slot at an open queue, all slots are taken. -/
lemma Eager.free_eq_zero (h : Eager q) (hopen : q.closed = false) {w : Waiter α}
    (hw : w ∈ q.waiting) (hready : w.ready = false) : q.free = 0 := by
  by_contra hne
  simp [h hopen hne w hw] at hready

end

/-! ### Slots go round in order -/

/-- The items whose sends have been given a slot between two states. -/
def given (q q' : Queue (Parcel α)) : List (Parcel α) :=
  q'.holding.filter fun p => p.number ∉ q.holding.map Parcel.number

/-- The items whose sends have been given a slot in the course of a run, the first one first. -/
def grants (q : Queue (Parcel α)) : List (Step (Parcel α)) → List (Parcel α)
  | [] => []
  | step :: steps => given q (q.act step).2 ++ grants (q.act step).2 steps

lemma grants_concat (q : Queue (Parcel α)) (steps : List (Step (Parcel α)))
    (step : Step (Parcel α)) : q.grants (steps ++ [step]) =
      q.grants steps ++ given (q.run steps).2 ((q.run steps).2.act step).2 := by
  induction steps generalizing q with
  | nil => simp [grants]
  | cons first steps ih =>
    rw [List.cons_append, grants, grants, ih, run_cons, List.append_assoc]

/-- Between waiting sends, the first of which stands before the second: it came earlier, and it
holds a slot if the second does. -/
def Ahead (v w : Waiter (Parcel α)) : Prop :=
  v.item.number < w.item.number ∧ (w.ready = true → v.ready = true)

/-- What holds of the line after `n` steps of a run with marks, in which `granted` have been given
a slot. -/
structure Fair (n : Nat) (granted : List (Parcel α)) (q : Queue (Parcel α)) : Prop where
  balanced : Balanced q
  eager : Eager q
  line : q.waiting.Pairwise Ahead
  old : ∀ w ∈ q.waiting, w.item.number < n
  order : granted.Pairwise fun p p' => p.number < p'.number
  past : ∀ p ∈ granted, p.number < n
  behind : ∀ p ∈ granted, ∀ w ∈ q.waiting, w.ready = false → p.number < w.item.number

variable {n : Nat} {granted : List (Parcel α)} {q q' : Queue (Parcel α)}

lemma Fair.new (capacity : Nat) (policy : Policy) :
    Fair 0 [] (Queue.new capacity policy : Queue (Parcel α)) where
  balanced := .new capacity policy
  eager _ _ _ hw := absurd hw List.not_mem_nil
  line := .nil
  old _ hw := absurd hw List.not_mem_nil
  order := .nil
  past _ hp := absurd hp List.not_mem_nil
  behind _ hp := absurd hp List.not_mem_nil

/-- Nothing is given where every slot was held before. -/
lemma given_of_subset (h : q'.holding ⊆ q.holding) : given q q' = [] := by
  refine List.filter_eq_nil_iff.mpr fun p hp => ?_
  simpa using ⟨p, h hp, rfl⟩

/-- A step after which nobody waits who has not waited before, and nobody has been given a slot. -/
lemma Fair.leaves (h : Fair n granted q) (hbalanced : Balanced q') (heager : Eager q')
    (hsub : q'.waiting.Sublist q.waiting) : Fair (n + 1) (granted ++ given q q') q' := by
  have hholding : q'.holding.Sublist q.holding := (hsub.filter _).map _
  have hgiven := given_of_subset hholding.subset
  rw [hgiven, List.append_nil]
  exact ⟨hbalanced, heager, h.line.sublist hsub,
    fun w hw => Nat.lt_succ_of_lt (h.old w (hsub.subset hw)), h.order,
    fun p hp => Nat.lt_succ_of_lt (h.past p hp),
    fun p hp w hw => h.behind p hp w (hsub.subset hw)⟩

/-- A send comes to the end of the line, without a slot. -/
lemma Fair.joins (h : Fair n granted q) (hbalanced : Balanced q') (heager : Eager q') (a : α)
    (hq' : q'.waiting = q.waiting ++ [⟨⟨n, a⟩, false⟩]) :
    Fair (n + 1) (granted ++ given q q') q' := by
  have hgiven : given q q' = [] := given_of_subset fun p hp => by simpa [holding, hq'] using hp
  have hmem : ∀ w ∈ q'.waiting, w ∈ q.waiting ∨ w = ⟨⟨n, a⟩, false⟩ := by
    intro w hw
    rwa [hq', List.mem_append, List.mem_singleton] at hw
  rw [hgiven, List.append_nil]
  refine ⟨hbalanced, heager, ?line, fun w hw => ?old, h.order,
    fun p hp => Nat.lt_succ_of_lt (h.past p hp), fun p hp w hw hready => ?behind⟩
  case line =>
    rw [hq', List.pairwise_append]
    refine ⟨h.line, List.pairwise_singleton _ _, fun v hv w hw => ?_⟩
    rw [List.mem_singleton.mp hw]
    exact ⟨h.old v hv, fun hready => by cases hready⟩
  case old =>
    rcases hmem w hw with hw | rfl
    · exact Nat.lt_succ_of_lt (h.old w hw)
    · exact Nat.lt_succ_self n
  case behind =>
    rcases hmem w hw with hw | rfl
    · exact h.behind p hp w hw hready
    · exact h.past p hp

/-- A slot that is given back goes to the first send without one. -/
lemma Fair.releases (h : Fair n granted q) (hbalanced : Balanced q') (heager : Eager q')
    {front back : List (Waiter (Parcel α))} {w : Waiter (Parcel α)}
    (hq : q.waiting = front ++ w :: back) (hfront : ∀ v ∈ front, v.ready = true)
    (hw : w.ready = false) (hq' : q'.waiting = front ++ { w with ready := true } :: back) :
    Fair (n + 1) (granted ++ given q q') q' := by
  have hline := h.line
  rw [hq, List.pairwise_append, List.pairwise_cons] at hline
  obtain ⟨hbefore, ⟨hafter, hback⟩, hacross⟩ := hline
  -- whoever stands behind the first send without a slot has none either
  have hnone : ∀ v ∈ back, v.ready = false := by
    intro v hv
    by_contra hne
    simp [(hafter v hv).2 (by simpa using hne)] at hw
  have hgiven : given q q' = [w.item] := by
    have hall : front.filter (·.ready) = front := List.filter_eq_self.mpr hfront
    have hrest : back.filter (·.ready) = [] :=
      List.filter_eq_nil_iff.mpr fun v hv => by simp [hnone v hv]
    have hold : q.holding = front.map (·.item) := by simp [holding, hq, hw, hall, hrest]
    have hnew : q'.holding = q.holding ++ [w.item] := by
      rw [hold]
      simp [holding, hq', hall, hrest]
    have hnotMem : w.item.number ∉ q.holding.map Parcel.number := by
      simp only [hold, List.map_map, List.mem_map, not_exists, not_and]
      exact fun v hv => Nat.ne_of_lt (hacross v hv w List.mem_cons_self).1
    have hnothing : given q q = [] := given_of_subset (List.Subset.refl _)
    rw [given] at hnothing ⊢
    rw [hnew, List.filter_append, hnothing, List.nil_append, List.filter_singleton]
    simp [hnotMem]
  have hmem : w ∈ q.waiting := by simp [hq]
  have hbackMem : ∀ v ∈ back, v ∈ q.waiting := fun v hv => by simp [hq, hv]
  rw [hgiven]
  refine ⟨hbalanced, heager, ?line, fun v hv => ?old, ?order, fun p hp => ?past,
    fun p hp v hv hready => ?behind⟩
  case line =>
    rw [hq', List.pairwise_append, List.pairwise_cons]
    refine ⟨hbefore, ⟨fun v hv => ⟨(hafter v hv).1, fun _ => rfl⟩, hback⟩, fun v hv u hu => ?_⟩
    rcases List.mem_cons.mp hu with rfl | hu
    · exact ⟨(hacross v hv w List.mem_cons_self).1, fun _ => hfront v hv⟩
    · exact hacross v hv u (List.mem_cons_of_mem _ hu)
  case old =>
    rw [hq', List.mem_append, List.mem_cons] at hv
    rcases hv with hv | rfl | hv
    · exact Nat.lt_succ_of_lt (h.old v (by simp [hq, hv]))
    · exact Nat.lt_succ_of_lt (h.old w hmem)
    · exact Nat.lt_succ_of_lt (h.old v (hbackMem v hv))
  case order =>
    rw [List.pairwise_append]
    refine ⟨h.order, List.pairwise_singleton _ _, fun p hp p' hp' => ?_⟩
    rw [List.mem_singleton.mp hp']
    exact h.behind p hp w hmem hw
  case past =>
    rcases List.mem_append.mp hp with hp | hp
    · exact Nat.lt_succ_of_lt (h.past p hp)
    · rw [List.mem_singleton.mp hp]
      exact Nat.lt_succ_of_lt (h.old w hmem)
  case behind =>
    rw [hq', List.mem_append, List.mem_cons] at hv
    rcases hv with hv | rfl | hv
    · simp [hfront v hv] at hready
    · cases hready
    · rcases List.mem_append.mp hp with hp | hp
      · exact h.behind p hp v (hbackMem v hv) hready
      · rw [List.mem_singleton.mp hp]
        exact (hafter v hv).1

lemma Fair.act (h : Fair n granted q) (step : Step α) :
    Fair (n + 1) (granted ++ given q (q.act (step.map (Parcel.mk n))).2)
      (q.act (step.map (Parcel.mk n))).2 := by
  have hstays : Fair (n + 1) (granted ++ given q q) q :=
    h.leaves h.balanced h.eager (List.Sublist.refl _)
  cases step with
  | send way a =>
    simp only [Step.map, Queue.act]
    split
    · exact hstays
    · have he := Entry.of_enter q way ⟨n, a⟩
      have hbalanced := h.balanced.entry he
      have heager := h.eager.entry he
      revert he hbalanced heager
      generalize (q.enter way ⟨n, a⟩).1 = r
      generalize (q.enter way ⟨n, a⟩).2 = q'
      intro he hbalanced heager
      cases he with
      | closed | full | stuck => exact hstays
      | enters => exact h.leaves hbalanced heager (List.Sublist.refl _)
      | waits => exact h.joins hbalanced heager a rfl
  | poll i =>
    simp only [Step.map, Queue.act]
    split
    · have hp := Poll.of_poll q i
      have hbalanced := h.balanced.poll hp
      have heager := h.eager.poll hp
      revert hp hbalanced heager
      generalize (q.poll i).1 = r
      generalize (q.poll i).2 = q'
      intro hp hbalanced heager
      cases hp with
      | pending => exact hstays
      | enters | fails => exact h.leaves hbalanced heager (List.eraseIdx_sublist _ _)
    · exact hstays
  | receive =>
    simp only [Step.map, Queue.act]
    have hr := Receipt.of_receive q
    have hbalanced := h.balanced.receipt hr
    have heager := h.eager.receipt hr
    revert hr hbalanced heager
    generalize q.receive.1 = r
    generalize q.receive.2 = q'
    intro hr hbalanced heager
    cases hr with
    | item p items hitems =>
      rcases waiting_release { q with items } with hsame | ⟨-, front, w, back, hq, hfront, hw, hq'⟩
      · refine h.leaves hbalanced heager ?_
        rw [hsame]
      · exact h.releases hbalanced heager hq hfront hw hq'
    | pending | finished => exact hstays
  | close =>
    exact h.leaves h.balanced.close (fun hopen => by cases hopen) (List.Sublist.refl _)
  | orphan =>
    exact h.leaves h.balanced.orphan (fun _ _ w hw => absurd hw List.not_mem_nil)
      (List.nil_sublist _)

lemma Fair.run (capacity : Nat) (policy : Policy) (steps : List (Step α)) :
    let q : Queue (Parcel α) := Queue.new capacity policy
    Fair steps.length (q.grants (numbered steps)) (q.run (numbered steps)).2 := by
  intro q
  induction steps using List.reverseRecOn with
  | nil => exact .new capacity policy
  | append_singleton steps step ih =>
    rw [numbered_concat, grants_concat, run_concat, List.length_append]
    exact ih.act step

/-- The marks leave a run as it is. -/
lemma run_numbered (capacity : Nat) (policy : Policy) (steps : List (Step α)) :
    ((Queue.new capacity policy).run steps).2 =
      ((Queue.new capacity policy).run (numbered steps)).2.map Parcel.item := by
  have hmap := run_map Parcel.item (Queue.new capacity policy) (numbered steps)
  rw [map_item_numbered, map_new] at hmap
  exact congrArg Prod.snd hmap

lemma Balanced.run (capacity : Nat) (policy : Policy) (steps : List (Step α)) :
    Balanced ((Queue.new capacity policy).run steps).2 := by
  have h := (Fair.run capacity policy steps).balanced
  rw [run_numbered]
  simpa [Balanced, heldSlots_map] using h

/-! ### The end of the line -/

section

variable {q : Queue α}

/-- At a closed queue a poll is the end of a send, and its slot is free again. -/
lemma poll_of_closed (h : q.closed = true) {i : Nat} {w : Waiter α}
    (hw : q.waiting[i]? = some w) : q.poll i = (.failed .closed,
      { q with
        waiting := q.waiting.eraseIdx i
        free := q.free + if w.ready then 1 else 0 }) := by
  cases hready : w.ready <;> simp [poll, hw, resume, h, hready]

/-- Every receipt takes the oldest item away and leaves the others. -/
lemma Receipt.items_eq {q' : Queue α} {r : Received α} (h : Receipt q r q') :
    (Answer.received r).received?.toList ++ q'.items = q.items ∧
      ((Answer.received r).received? = none → q.items = []) := by
  cases h with
  | item a items hitems => simp [Answer.received?, hitems]
  | pending hitems | finished hitems => simp [Answer.received?, hitems]

/-- As many receipts as there are items bring all of them out, in their order. -/
lemma received_run_replicate {n : Nat} (h : q.items.length = n) :
    received (q.run (List.replicate n .receive)).1 = q.items := by
  induction n generalizing q with
  | zero => exact (List.length_eq_zero_iff.mp h).symm
  | succ n ih =>
    obtain ⟨hitems, hnone⟩ := (Receipt.of_receive q).items_eq
    rw [List.replicate_succ, run_cons]
    simp only [act]
    cases hfirst : (Answer.received q.receive.1).received? with
    | none =>
      rw [hnone hfirst] at h
      cases h
    | some a =>
      rw [hfirst] at hitems
      have hlength : q.receive.2.items.length = n := by
        rw [← hitems] at h
        simpa using h
      rw [received, List.filterMap_cons_some hfirst, ← hitems, ← ih hlength]
      rfl

/-- A closed queue at which nobody waits; of `all` that was inside some has been received. -/
structure Emptying (all : List α) (answers : List (Answer α)) (q : Queue α) : Prop where
  closed : q.closed = true
  waiting : q.waiting = []
  balanced : Balanced q
  rest : received answers ++ q.items = all

variable {all : List α} {answers : List (Answer α)}

lemma Emptying.silent (h : Emptying all answers q) {answer : Answer α}
    (hanswer : answer.received? = none) : Emptying all (answers ++ [answer]) q :=
  ⟨h.closed, h.waiting, h.balanced, by simpa [hanswer] using h.rest⟩

lemma Emptying.act (h : Emptying all answers q) (step : Step α) :
    Emptying all (answers ++ [(q.act step).1]) (q.act step).2 := by
  cases step with
  | send way a =>
    simp only [Queue.act, enter_of_closed h.closed]
    split <;> exact h.silent rfl
  | poll i =>
    simp only [Queue.act, h.waiting, List.getElem?_nil]
    exact h.silent rfl
  | receive =>
    have hr := Receipt.of_receive q
    have hbalanced := h.balanced.receipt hr
    have hitems := hr.items_eq.1
    have hrest := h.rest
    rw [← hitems, ← List.append_assoc] at hrest
    simp only [Queue.act]
    refine ⟨?_, ?_, hbalanced, by simpa using hrest⟩
    · unfold receive
      split
      · exact (closed_release _).trans h.closed
      · split <;> exact h.closed
    · unfold receive
      split
      · next items hq =>
        have hnil : { q with items }.waiting = [] := h.waiting
        rw [release_of_nil hnil]
        exact hnil
      · split <;> exact h.waiting
  | close => exact ⟨rfl, h.waiting, h.balanced.close, (h.silent rfl).rest⟩
  | orphan => exact ⟨h.closed, rfl, h.balanced.orphan, (h.silent rfl).rest⟩

lemma Emptying.run (h : Emptying all [] q) (steps : List (Step α)) :
    Emptying all (q.run steps).1 (q.run steps).2 := by
  induction steps using List.reverseRecOn with
  | nil => exact h
  | append_singleton steps step ih =>
    rw [run_concat]
    exact ih.act step

end

/-- Whatever is done with a queue, its size is the number of its items and of the slots that waiting
sends hold, and with the free slots it makes up the capacity. As long as a send waits at an open
queue without a slot, none is free, and no other send enters. The sends are given their slots in the
order in which they began to wait, which the marks show. Once the queue is closed, a poll is the end
of every waiting send; when none is left, the size is the number of the items, these can all be
received, and nothing more is received whatever is done then. -/
theorem slots_run (capacity : Nat) (policy : Policy) (steps : List (Step α)) :
    let start : Queue (Parcel α) := Queue.new capacity policy
    let q := (start.run (numbered steps)).2
    let granted := start.grants (numbered steps)
    ((Queue.new capacity policy).run steps).2 = q.map Parcel.item ∧
    (q.size = q.items.length + heldSlots q.waiting ∧ q.size + q.free = capacity ∧
      (q.isEmpty = true ↔ q.size = 0)) ∧
    (q.closed = false → (∃ w ∈ q.waiting, w.ready = false) →
      q.size = capacity ∧ ∀ way p, (q.enter way p).1 ≠ .ok) ∧
    ((granted.map Parcel.number).Pairwise (· < ·) ∧
      (∀ p ∈ granted, ∀ w ∈ q.waiting, w.ready = false → p.number < w.item.number) ∧
      q.waiting.Pairwise Ahead) ∧
    (q.closed = true →
      (∀ i w, q.waiting[i]? = some w →
        (q.poll i).1 = .failed .closed ∧ (q.poll i).2.waiting = q.waiting.eraseIdx i) ∧
      (q.waiting = [] → q.size = q.items.length ∧
        received (q.run (List.replicate q.size .receive)).1 = q.items ∧
        ∀ more, received (q.run more).1 ++ (q.run more).2.items = q.items ∧
          ((q.run more).2.receive.1 = .finished ↔ (q.run more).2.items = []))) := by
  intro start q granted
  have h : Fair steps.length granted q := Fair.run capacity policy steps
  have hcapacity : q.capacity = capacity := (capacity_run start (numbered steps)).1
  have hbalanced := h.balanced
  have hsize := hbalanced.size_eq
  refine ⟨run_numbered capacity policy steps, ⟨hsize, ?sum, by simp [isEmpty]⟩, ?full,
    ⟨?order, h.behind, h.line⟩, ?closed⟩
  case sum =>
    rw [Balanced] at hbalanced
    omega
  case full =>
    rintro hopen ⟨w, hw, hready⟩
    have hfree := h.eager.free_eq_zero hopen hw hready
    refine ⟨?_, fun way p => ?_⟩
    · rw [Balanced] at hbalanced
      omega
    · exact fun hok => (Entry.of_enter q way p).free_ne_zero hok hfree
  case order => exact List.pairwise_map.mpr h.order
  case closed =>
    intro hclosed
    refine ⟨fun i w hw => ?_, fun hwaiting => ?_⟩
    · rw [poll_of_closed hclosed hw]
      exact ⟨rfl, rfl⟩
    · have hlength : q.size = q.items.length := by simp [hsize, hwaiting]
      have hemptying : Emptying q.items [] q := ⟨hclosed, hwaiting, hbalanced, rfl⟩
      refine ⟨hlength, received_run_replicate hlength.symm, fun more => ?_⟩
      have h' := hemptying.run more
      refine ⟨h'.rest, ?_⟩
      rw [receive_eq_finished_iff h'.balanced fun _ => h'.waiting]
      simp [h'.closed, h'.waiting]

/-- Of three sends that wait the first two are given the slots of the items that are received. The
queue is closed before the second is polled, which gives its slot back. -/
example :
    let q : Queue Nat := Queue.new 2 .block
    let steps : List (Step Nat) := [.send .task 1, .send .attempt 2, .send .task 3,
      .send (.blocking .thread) 4, .send .task 5, .receive, .receive, .poll 0, .close, .poll 0]
    (q.run (steps.take 7)).2.holding = [3, 4] ∧ (q.run (steps.take 7)).2.size = 2 ∧
      (q.run steps).2.size = 1 ∧ (q.run steps).2.items = [3] := by
  decide

end TrafficFeed.Queue
