import Mathlib.Data.List.Induction
import Mathlib.Tactic.Lemma
import TrafficFeed.Correlation

/-!
# What is remembered, and why

The requests that wait are a matter of their history alone: what has been stored and taken, and
when sweeps took place. A request waits from the moment it was stored until another is stored under
its identity, or it is taken, or a sweep finds it stale.
-/

namespace TrafficFeed

/-- A history that has grown by one, cut at one of its parts: that is the new one, or it was there
before. -/
lemma concat_eq_append_cons_iff {α : Type} {l before after : List α} {a x : α} :
    l ++ [a] = before ++ x :: after ↔
      l = before ∧ a = x ∧ after = [] ∨ ∃ rest, after = rest ++ [a] ∧ l = before ++ x :: rest := by
  constructor
  · intro h
    rcases List.eq_nil_or_concat after with rfl | ⟨rest, last, rfl⟩
    · obtain ⟨hl, ha⟩ := List.append_inj' h rfl
      exact .inl ⟨hl, List.singleton_inj.mp ha, rfl⟩
    · rw [List.concat_eq_append, ← List.cons_append, ← List.append_assoc] at h
      obtain ⟨hl, ha⟩ := List.append_inj' h rfl
      exact .inr ⟨rest, by rw [List.concat_eq_append, ha], hl⟩
  · rintro (⟨rfl, rfl, rfl⟩ | ⟨rest, rfl, rfl⟩)
    · rfl
    · rw [List.append_assoc, List.cons_append]

namespace Correlation

/-- Something that is done to the requests that wait. -/
inductive Mark where
  | stored (w : Waiting)
  | taken (id : FlowId)
  | swept (now : Nat)
  deriving DecidableEq, Repr

namespace Mark

/-- Whether what is done ends the wait of an entry. -/
def ends (ttl : Nat) (w : Waiting) : Mark → Bool
  | .stored v => v.id = w.id
  | .taken id => id = w.id
  | .swept now => !fresh ttl now w

/-- Whether what is done can bear on an identity. -/
def concerns (id : FlowId) : Mark → Bool
  | .stored w => w.id = id
  | .taken other => other = id
  | .swept _ => true

end Mark

def mark (c : Correlation) : Mark → Correlation
  | .stored w => c.put w.id w.request w.since
  | .taken id => (c.take id).2
  | .swept now => (c.sweep now).2

def replay (c : Correlation) (marks : List Mark) : Correlation := marks.foldl mark c

/-- Whether a store takes the number of entries above the threshold. -/
def overflows (c : Correlation) (id : FlowId) (request : CapturedRequest) (now : Nat) : Bool :=
  (c.put id request now).threshold < (c.put id request now).size

/-- Whether an entry has been stored and nothing has ended its wait since. -/
def Kept (ttl : Nat) (marks : List Mark) (w : Waiting) : Prop :=
  ∃ before after, marks = before ++ .stored w :: after ∧ ∀ m ∈ after, m.ends ttl w = false

variable {ttl limit now : Nat} {marks : List Mark} {m : Mark} {w : Waiting} {id : FlowId}

/-! ### Replays -/

@[simp] lemma replay_nil (c : Correlation) : c.replay [] = c := rfl

lemma replay_append (c : Correlation) (marks more : List Mark) :
    c.replay (marks ++ more) = (c.replay marks).replay more := by
  simp [replay]

lemma replay_concat (c : Correlation) (marks : List Mark) (m : Mark) :
    c.replay (marks ++ [m]) = (c.replay marks).mark m := by
  simp [replay]

@[simp] lemma ttl_mark (c : Correlation) (m : Mark) : (c.mark m).ttl = c.ttl := by
  cases m <;> rfl

@[simp] lemma ttl_replay (c : Correlation) (marks : List Mark) :
    (c.replay marks).ttl = c.ttl := by
  induction marks using List.reverseRecOn with
  | nil => rfl
  | append_singleton marks m ih => rw [replay_concat, ttl_mark, ih]

/-- A store is followed by a sweep at the same moment if it takes the entries above the
threshold. -/
lemma store_eq_replay (c : Correlation) (id : FlowId) (request : CapturedRequest) (now : Nat) :
    (c.store id request now).2 = c.replay (.stored ⟨id, request, now⟩ ::
      if c.overflows id request now then [.swept now] else []) := by
  unfold store overflows
  by_cases h : (c.put id request now).threshold < (c.put id request now).size <;>
    simp [h, replay, mark]

/-! ### Readings along a history -/

/-- What `f` reads off each thing that is done and the requests that wait just before it. -/
def readings (f : Correlation → Mark → Nat) (c : Correlation) : List Mark → List Nat
  | [] => []
  | m :: marks => f c m :: readings f (c.mark m) marks

@[simp] lemma readings_nil (f : Correlation → Mark → Nat) (c : Correlation) :
    readings f c [] = [] := rfl

lemma readings_append (f : Correlation → Mark → Nat) (c : Correlation) (marks more : List Mark) :
    readings f c (marks ++ more) = readings f c marks ++ readings f (c.replay marks) more := by
  induction marks generalizing c with
  | nil => rfl
  | cons m marks ih =>
    rw [List.cons_append, readings, readings, ih]
    rfl

lemma readings_concat (f : Correlation → Mark → Nat) (c : Correlation) (marks : List Mark)
    (m : Mark) : readings f c (marks ++ [m]) = readings f c marks ++ [f (c.replay marks) m] :=
  readings_append f c marks [m]

/-! ### The entries -/

lemma not_kept_nil : ¬ Kept ttl [] w := by
  rintro ⟨before, after, h, -⟩
  simp at h

/-- The last thing done has stored the entry, or the entry waited before and still does. -/
lemma kept_concat :
    Kept ttl (marks ++ [m]) w ↔ m = .stored w ∨ Kept ttl marks w ∧ m.ends ttl w = false := by
  constructor
  · rintro ⟨before, after, h, hafter⟩
    rcases concat_eq_append_cons_iff.mp h with ⟨-, rfl, -⟩ | ⟨rest, rfl, hmarks⟩
    · exact .inl rfl
    · refine .inr ⟨⟨before, rest, hmarks, fun x hx => hafter x ?_⟩, hafter m ?_⟩
      · exact List.mem_append_left _ hx
      · exact List.mem_append_right _ (List.mem_singleton_self m)
  · rintro (rfl | ⟨⟨before, after, rfl, hafter⟩, hm⟩)
    · exact ⟨marks, [], rfl, by simp⟩
    · refine ⟨before, after ++ [m], by simp, fun x hx => ?_⟩
      rcases List.mem_append.mp hx with hx | hx
      · exact hafter x hx
      · rw [List.mem_singleton.mp hx]
        exact hm

lemma mem_entries_mark {c : Correlation} :
    w ∈ (c.mark m).entries ↔ m = .stored w ∨ w ∈ c.entries ∧ m.ends c.ttl w = false := by
  cases m with
  | stored v =>
    have hmark : (c.mark (.stored v)).entries = v :: c.entries.filter fun x => x.id ≠ v.id := rfl
    rw [hmark]
    simp only [List.mem_cons, List.mem_filter, Mark.ends, Mark.stored.injEq]
    grind
  | taken id =>
    simp only [mark, entries_take, List.mem_filter, Mark.ends]
    grind
  | swept now => simp [mark, Mark.ends]

/-- An entry is there if and only if its wait has begun and not ended. -/
lemma mem_entries_replay (c : Correlation) (hc : c.entries = []) (marks : List Mark)
    (w : Waiting) : w ∈ (c.replay marks).entries ↔ Kept c.ttl marks w := by
  induction marks using List.reverseRecOn with
  | nil => simp [hc, not_kept_nil]
  | append_singleton marks m ih =>
    rw [replay_concat, mem_entries_mark, kept_concat, ih, ttl_replay]

lemma nodup_mark {c : Correlation} (h : (c.entries.map (·.id)).Nodup) (m : Mark) :
    ((c.mark m).entries.map (·.id)).Nodup := by
  cases m with
  | stored v =>
    simp only [mark, entries_put, List.map_cons, List.nodup_cons]
    refine ⟨by simp, ?_⟩
    exact h.sublist (List.filter_sublist.map _)
  | taken id => exact h.sublist (List.filter_sublist.map _)
  | swept now => exact h.sublist (List.filter_sublist.map _)

/-- No two entries share an identity. -/
lemma nodup_replay {c : Correlation} (hc : c.entries = []) (marks : List Mark) :
    ((c.replay marks).entries.map (·.id)).Nodup := by
  induction marks using List.reverseRecOn with
  | nil => simp [hc]
  | append_singleton marks m ih =>
    rw [replay_concat]
    exact nodup_mark ih m

/-- What is found under an identity is the request of an entry under it, and where no two entries
share an identity it is that of each such entry. -/
lemma get?_eq_some_iff {c : Correlation} (h : (c.entries.map (·.id)).Nodup)
    {request : CapturedRequest} :
    c.get? id = some request ↔ ∃ w ∈ c.entries, w.id = id ∧ w.request = request := by
  unfold get?
  generalize c.entries = entries at h
  induction entries with
  | nil => simp
  | cons v entries ih =>
    rw [List.map_cons, List.nodup_cons] at h
    rw [List.find?_cons]
    by_cases hv : v.id = id
    · have hne : ∀ w ∈ entries, w.id ≠ id := by
        rintro w hw rfl
        exact h.1 (List.mem_map.mpr ⟨w, hw, hv.symm⟩)
      simp only [hv, decide_true, Option.map_some, Option.some.injEq, List.mem_cons,
        exists_eq_or_imp, true_and]
      refine ⟨.inl, ?_⟩
      rintro (heq | ⟨w, hw, hid, -⟩)
      · exact heq
      · exact absurd hid (hne w hw)
    · simp only [hv, decide_false, List.mem_cons, exists_eq_or_imp, false_and, false_or]
      exact ih h.2

lemma get?_replay (ttl limit : Nat) (marks : List Mark) (id : FlowId)
    (request : CapturedRequest) :
    ((new ttl limit).replay marks).get? id = some request ↔
      ∃ w, Kept ttl marks w ∧ w.id = id ∧ w.request = request := by
  rw [get?_eq_some_iff (nodup_replay rfl marks)]
  simp only [mem_entries_replay (new ttl limit) rfl marks]
  rfl

/-! ### What bears on an identity -/

/-- What does not concern an identity neither stores nor ends a wait under it. -/
lemma kept_filter : Kept ttl (marks.filter (·.concerns w.id)) w ↔ Kept ttl marks w := by
  induction marks using List.reverseRecOn with
  | nil => rfl
  | append_singleton marks m ih =>
    rw [List.filter_append, kept_concat]
    by_cases hm : m.concerns w.id
    · rw [List.filter_cons_of_pos hm, List.filter_nil, kept_concat, ih]
    · have hother : m ≠ .stored w ∧ m.ends ttl w = false := by
        constructor
        · rintro rfl
          simp [Mark.concerns] at hm
        · cases m <;> simp_all [Mark.concerns, Mark.ends]
      rw [List.filter_cons_of_neg hm, List.filter_nil, List.append_nil, ih]
      simp [hother]

/-- Histories that agree on what concerns an identity find the same under it. -/
lemma get?_replay_congr {marks' : List Mark}
    (h : marks.filter (·.concerns id) = marks'.filter (·.concerns id)) :
    ((new ttl limit).replay marks).get? id = ((new ttl limit).replay marks').get? id := by
  ext request
  simp only [get?_replay]
  constructor
  · rintro ⟨w, hw, rfl, hr⟩
    rw [← kept_filter, h, kept_filter] at hw
    exact ⟨w, hw, rfl, hr⟩
  · rintro ⟨w, hw, rfl, hr⟩
    rw [← kept_filter, ← h, kept_filter] at hw
    exact ⟨w, hw, rfl, hr⟩

end Correlation

end TrafficFeed
