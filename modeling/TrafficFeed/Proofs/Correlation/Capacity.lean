import TrafficFeed.Proofs.Correlation.Ledger

/-!
# How many requests wait

The threshold follows the sweeps: it is the limit, or at most twice what the last sweep left. A
store that takes the number of entries above it sweeps, so there are never more entries than the
limit, or than twice the most that any sweep has found to be alive.
-/

namespace TrafficFeed.Correlation

variable {c : Correlation} {marks : List Mark} {m : Mark}

/-! ### The peak of a history -/

/-- How many entries a sweep finds that have not waited for the time to live. -/
def live (c : Correlation) : Mark → Nat
  | .swept now => c.entries.countP (fresh c.ttl now)
  | .stored _ | .taken _ => 0

/-- The most entries that any sweep of a history has found alive; zero if there was no sweep. -/
def peak (c : Correlation) (marks : List Mark) : Nat := (readings live c marks).foldl max 0

@[simp] lemma peak_nil (c : Correlation) : c.peak [] = 0 := rfl

lemma peak_concat (c : Correlation) (marks : List Mark) (m : Mark) :
    c.peak (marks ++ [m]) = max (c.peak marks) ((c.replay marks).live m) := by
  rw [peak, readings_concat, List.foldl_append]
  rfl

/-- The peak is the least number that no sweep has found more entries alive than. -/
lemma peak_le_iff {n : Nat} : c.peak marks ≤ n ↔ ∀ before now after,
    marks = before ++ .swept now :: after → (c.replay before).live (.swept now) ≤ n := by
  induction marks using List.reverseRecOn with
  | nil => simp
  | append_singleton marks m ih =>
    rw [peak_concat, Nat.max_le, ih]
    constructor
    · rintro ⟨hmarks, hlast⟩ before now after h
      rcases concat_eq_append_cons_iff.mp h with ⟨rfl, rfl, -⟩ | ⟨rest, -, hbefore⟩
      · exact hlast
      · exact hmarks before now rest hbefore
    · intro h
      refine ⟨fun before now after hbefore => h before now (after ++ [m]) ?_, ?_⟩
      · rw [hbefore, List.append_assoc, List.cons_append]
      · cases m with
        | stored | taken => exact Nat.zero_le n
        | swept now => exact h marks now [] rfl

/-! ### The threshold -/

lemma size_sweep (c : Correlation) (now : Nat) : (c.sweep now).2.size = c.live (.swept now) :=
  List.countP_eq_length_filter.symm

lemma threshold_sweep (c : Correlation) (now : Nat) :
    (c.sweep now).2.threshold = nextThreshold c.limit (c.sweep now).2.size := rfl

section

variable (limit remaining : Nat)

lemma le_nextThreshold {limit : Nat} (h : limit ≤ maxSize) :
    limit ≤ nextThreshold limit remaining := by
  unfold nextThreshold
  split <;> omega

/-- Also where doubling comes to its end, there is room for as many entries as can be told apart. -/
lemma min_le_nextThreshold : min remaining maxSize ≤ nextThreshold limit remaining := by
  unfold nextThreshold
  split <;> omega

lemma nextThreshold_le : nextThreshold limit remaining ≤ max limit (2 * remaining) := by
  unfold nextThreshold
  split <;> omega

end

/-! ### The bound along a run -/

/-- Threshold and number of entries are within a limit, or twice a peak. -/
structure Within (limit peak : Nat) (c : Correlation) : Prop where
  limit_eq : c.limit = limit
  limit_le : limit ≤ c.threshold
  threshold_le : c.threshold ≤ max limit (2 * peak)
  fits : min c.size maxSize ≤ c.threshold
  size_le : c.size ≤ max limit (2 * peak)

variable {ttl limit peak now : Nat}

lemma Within.new (ttl limit : Nat) : Within limit 0 (new ttl limit) :=
  ⟨rfl, Nat.le_refl _, Nat.le_max_left _ _, Nat.zero_le _, Nat.zero_le _⟩

/-- Whatever there was before: a sweep that leaves no more entries than the peak is within it. -/
lemma Within.sweep (hlimit : c.limit = limit) (hmax : limit ≤ maxSize)
    (hpeak : c.live (.swept now) ≤ peak) : Within limit peak (c.sweep now).2 := by
  have hsize := size_sweep c now
  have hle := le_nextThreshold (c.sweep now).2.size hmax
  have hfits := min_le_nextThreshold limit (c.sweep now).2.size
  have hnext := nextThreshold_le limit (c.sweep now).2.size
  rw [← hlimit, ← threshold_sweep] at hle hfits hnext
  refine ⟨hlimit, ?_, ?_, hfits, ?_⟩ <;> omega

/-- The threshold stays, and there are no more entries than it allows or than there were. -/
lemma Within.of_size_le {c' : Correlation} (h : Within limit peak c) (hlimit : c'.limit = c.limit)
    (hthreshold : c'.threshold = c.threshold) (hsize : c'.size ≤ max c.size c.threshold) :
    Within limit peak c' := by
  obtain ⟨rfl, hle, hthreshold_le, hfits, hsize_le⟩ := h
  refine ⟨hlimit, ?_, ?_, ?_, ?_⟩ <;> omega

namespace Ledger

variable {l : Ledger}

/-- The account agrees with what waits, and the entries are within the limit or twice the peak. -/
structure Bounded (ttl limit : Nat) (l : Ledger) : Prop where
  balanced : Balanced ttl limit l
  within : Within limit ((Correlation.new ttl limit).peak l.marks) l.cache

lemma Bounded.new (ttl limit : Nat) : Bounded ttl limit (new ttl limit) :=
  ⟨.new ttl limit, .new ttl limit⟩

lemma Bounded.sweep (h : Bounded ttl limit l) (hmax : limit ≤ maxSize) (now : Nat) :
    Bounded ttl limit (l.access (.sweep now)) := by
  refine ⟨h.balanced.sweep now, ?_⟩
  simp only [access]
  rw [peak_concat, ← h.balanced.cache]
  exact .sweep h.within.limit_eq hmax (Nat.le_max_right _ _)

lemma Bounded.take (h : Bounded ttl limit l) (id : FlowId) :
    Bounded ttl limit (l.access (.take id)) := by
  refine ⟨h.balanced.take id, ?_⟩
  have htake := size_take h.balanced.nodup id
  simp only [access]
  rw [peak_concat, live, Nat.max_zero]
  exact h.within.of_size_le rfl rfl (by omega)

/-- A store sweeps if the entries would be above the threshold, and otherwise they are not. -/
lemma Bounded.store (h : Bounded ttl limit l) (hmax : limit ≤ maxSize) (w : Waiting) :
    Bounded ttl limit (l.access (.store w)) := by
  refine ⟨h.balanced.store w, ?_⟩
  have hput : l.cache.put w.id w.request w.since =
      (Correlation.new ttl limit).replay (l.marks ++ [.stored w]) := by
    rw [replay_concat, ← h.balanced.cache]
    rfl
  simp only [access]
  cases hover : l.cache.overflows w.id w.request w.since with
  | true =>
    rw [store_of_overflows hover, if_pos rfl, List.append_cons, peak_concat, ← hput]
    exact .sweep h.within.limit_eq hmax (Nat.le_max_right _ _)
  | false =>
    rw [store_of_not_overflows hover, if_neg Bool.false_ne_true, peak_concat, live, Nat.max_zero]
    simp only [overflows, decide_eq_false_iff_not, Nat.not_lt] at hover
    exact h.within.of_size_le rfl rfl (Nat.le_trans hover (Nat.le_max_right _ _))

lemma Bounded.run (h : Bounded ttl limit l) (hmax : limit ≤ maxSize) (accesses : List Access) :
    Bounded ttl limit (l.run accesses) := by
  induction accesses using List.reverseRecOn with
  | nil => exact h
  | append_singleton accesses a ih =>
    rw [run_concat]
    cases a with
    | store w => exact ih.store hmax w
    | take id => exact ih.take id
    | sweep now => exact ih.sweep hmax now

/-- Whatever was stored, taken and swept, and at whatever times: the threshold is not below the
limit, and the entries are not above the threshold as long as they can be told apart. They are never
more than the limit, or than twice the most that a sweep has found, asked for or made by a store,
of entries that were there and had not waited for the time to live. -/
theorem size_run (ttl : Nat) (limit : UInt64) (accesses : List Access) :
    let start := Correlation.new ttl limit.toNat
    let l := (new ttl limit.toNat).run accesses
    (l.cache.size ≤ maxSize → l.cache.size ≤ l.cache.threshold) ∧
    limit.toNat ≤ l.cache.threshold ∧
    l.cache.size ≤ max limit.toNat (2 * start.peak l.marks) ∧
    ∀ n, start.peak l.marks ≤ n ↔ ∀ before now after, l.marks = before ++ .swept now :: after →
      ((start.replay before).entries.countP fun w => now - w.since < ttl) ≤ n := by
  intro start l
  have hmax : limit.toNat ≤ maxSize := Nat.le_pred_of_lt limit.toNat_lt_size
  have h : Bounded ttl limit.toNat l := (Bounded.new ttl limit.toNat).run hmax accesses
  refine ⟨fun hsize => ?_, h.within.limit_le, h.within.size_le, fun n => ?_⟩
  · have hfits := h.within.fits
    rwa [Nat.min_eq_left hsize] at hfits
  · have hlive : ∀ before now, (start.replay before).live (.swept now) =
        (start.replay before).entries.countP fun w => now - w.since < ttl := by
      intro before now
      rw [live, ttl_replay]
      rfl
    simp only [peak_le_iff, hlive]

/-- A limit of one and no sweep but that of the second store, which finds two entries alive: there
is room for four, and the third store does not sweep. -/
theorem size_run_of_live_entries :
    let w (id : String) : Waiting := ⟨⟨id⟩, ⟨"GET", "/" ++ id, "", "", "", 0, "", "", ""⟩, 0⟩
    let l := (new 10 1).run [.store (w "a"), .store (w "b"), .store (w "c")]
    l.cache.size = 3 ∧ (Correlation.new 10 1).peak l.marks = 2 ∧ l.cache.threshold = 4 ∧
      l.cache.size ≤ l.cache.threshold ∧
      l.cache.size ≤ max 1 (2 * (Correlation.new 10 1).peak l.marks) := by
  intro w l
  obtain ⟨hthreshold, -, hsize, -⟩ :=
    size_run 10 1 [.store (w "a"), .store (w "b"), .store (w "c")]
  exact ⟨by decide +kernel, by decide +kernel, by decide +kernel, hthreshold (by decide +kernel),
    hsize⟩

end Ledger

end TrafficFeed.Correlation
