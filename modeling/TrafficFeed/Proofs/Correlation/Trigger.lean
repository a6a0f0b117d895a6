import TrafficFeed.Proofs.Correlation.Capacity

/-!
# When a store sweeps

A sweep that leaves no more entries than the limit puts the threshold back to it, where it stays
until a store exceeds the limit and sweeps. A sweep that leaves more puts the threshold to twice
what it left, so that a store of each of them again, under an identity of its own, does not sweep.
-/

namespace TrafficFeed.Correlation

variable {c : Correlation} {limit : Nat} {w : Waiting}

lemma overflows_eq_false_iff :
    c.overflows w.id w.request w.since = false ↔ (c.mark (.stored w)).size ≤ c.threshold := by
  simp only [overflows, decide_eq_false_iff_not, Nat.not_lt]
  rfl

lemma overflows_iff :
    c.overflows w.id w.request w.since = true ↔ c.threshold < (c.mark (.stored w)).size := by
  simp only [overflows, decide_eq_true_eq]
  rfl

namespace Ledger

/-- Whether an access makes a sweep: it asks for one, or it is a store that takes the entries above
the threshold. -/
def sweeps (l : Ledger) : Access → Bool
  | .store w => l.cache.overflows w.id w.request w.since
  | .take _ => false
  | .sweep _ => true

variable {ttl n base : Nat} {l : Ledger}

lemma cache_store_of_not_sweeps (h : l.sweeps (.store w) = false) :
    (l.access (.store w)).cache = l.cache.mark (.stored w) := by
  simp only [access]
  rw [store_of_not_overflows h]
  rfl

lemma cache_store_of_sweeps (h : l.sweeps (.store w) = true) :
    (l.access (.store w)).cache = ((l.cache.mark (.stored w)).sweep w.since).2 := by
  simp only [access]
  rw [store_of_overflows h]
  rfl

lemma Balanced.size_stored (h : Balanced ttl limit l) (w : Waiting) :
    (l.cache.mark (.stored w)).size + l.admitted =
      l.cache.size + (l.access (.store w)).admitted := by
  have hput := size_put h.nodup w.id w.request w.since
  simp only [mark, access, hput]
  omega

/-- An access that makes a sweep leaves the threshold that is due to what it leaves. -/
lemma threshold_of_sweeps {a : Access} (h : l.sweeps a = true) :
    (l.access a).cache.threshold = nextThreshold l.cache.limit (l.access a).cache.size := by
  cases a with
  | store w =>
    rw [cache_store_of_sweeps h, threshold_sweep]
    rfl
  | take id => cases h
  | sweep now => exact threshold_sweep l.cache now

lemma admitted_le_access (l : Ledger) (a : Access) : l.admitted ≤ (l.access a).admitted := by
  cases a with
  | store w => exact Nat.le_add_right _ _
  | take | sweep => exact Nat.le_refl _

lemma size_take_le (c : Correlation) (id : FlowId) : (c.take id).2.size ≤ c.size :=
  List.length_filter_le _ _

lemma limit_access (l : Ledger) (a : Access) : (l.access a).cache.limit = l.cache.limit := by
  cases a with
  | store w =>
    cases hsweeps : l.sweeps (.store w) with
    | true => rw [cache_store_of_sweeps hsweeps]; rfl
    | false => rw [cache_store_of_not_sweeps hsweeps]; rfl
  | take | sweep => rfl

/-! ### At the limit -/

/-- The threshold is the limit, and the entries are not above it. -/
structure Reset (limit : Nat) (l : Ledger) : Prop where
  limit_eq : l.cache.limit = limit
  threshold_eq : l.cache.threshold = limit
  size_le : l.cache.size ≤ limit

lemma Reset.of_sweeps {a : Access} (hlimit : l.cache.limit = limit) (hsweeps : l.sweeps a = true)
    (hsize : (l.access a).cache.size ≤ limit) : Reset limit (l.access a) := by
  refine ⟨by rw [limit_access, hlimit], ?_, hsize⟩
  rw [threshold_of_sweeps hsweeps, hlimit, nextThreshold, if_neg (Nat.not_lt.mpr hsize)]

/-- The threshold stays at the limit as long as no store exceeds it. -/
lemma Reset.access (h : Reset limit l) {a : Access}
    (hstore : ∀ w, a = .store w → (l.cache.mark (.stored w)).size ≤ limit) :
    Reset limit (l.access a) := by
  cases a with
  | store w =>
    have hsize := hstore w rfl
    have hsweeps : l.sweeps (.store w) = false := by
      rw [sweeps, overflows_eq_false_iff, h.threshold_eq]
      exact hsize
    have hcache := cache_store_of_not_sweeps hsweeps
    refine ⟨by rw [limit_access, h.limit_eq], ?_, ?_⟩
    · rw [hcache]
      exact h.threshold_eq
    · rw [hcache]
      exact hsize
  | take id => exact ⟨h.limit_eq, h.threshold_eq, Nat.le_trans (size_take_le _ id) h.size_le⟩
  | sweep now =>
    have hcount := sweep_count l.cache now
    have hsize : (l.access (.sweep now)).cache.size ≤ l.cache.size := Nat.le.intro hcount
    exact .of_sweeps h.limit_eq rfl (Nat.le_trans hsize h.size_le)

lemma Reset.run (h : Reset limit l) {more : List Access}
    (hmore : ∀ before w after, more = before ++ .store w :: after →
      ((l.run before).cache.mark (.stored w)).size ≤ limit) :
    Reset limit (l.run more) := by
  induction more using List.reverseRecOn with
  | nil => exact h
  | append_singleton more a ih =>
    have ih : Reset limit (l.run more) := by
      apply ih
      intro before w after heq
      apply hmore before w (after ++ [a])
      rw [heq, List.append_assoc, List.cons_append]
    rw [run_concat]
    apply ih.access
    rintro w rfl
    exact hmore more w [] rfl

/-! ### At twice what a sweep left -/

/-- Until more than `n` have been admitted on top of `base`, the threshold is twice `n`, and the
entries are `n` and those at most. -/
structure Doubled (ttl limit n base : Nat) (l : Ledger) : Prop where
  balanced : Balanced ttl limit l
  room : l.admitted ≤ base + n →
    l.cache.threshold = 2 * n ∧ l.cache.size + base ≤ n + l.admitted

/-- A sweep that evicts nothing leaves all that was there, which is more than the limit. -/
lemma Bounded.lt_size_of_sweeps (h : Bounded ttl limit l) (hsweeps : l.sweeps (.store w) = true)
    (hevicted : (l.cache.store w.id w.request w.since).1 = 0) :
    limit < (l.access (.store w)).cache.size := by
  have hcount := store_count l.cache w.id w.request w.since
  rw [hevicted] at hcount
  calc limit
    _ ≤ l.cache.threshold := h.within.limit_le
    _ < (l.cache.mark (.stored w)).size := overflows_iff.mp hsweeps
    _ = (l.access (.store w)).cache.size := hcount.symm

lemma Doubled.of_sweeps (h : Bounded ttl limit l) (hsweeps : l.sweeps (.store w) = true)
    (hsize : limit < (l.access (.store w)).cache.size)
    (hdouble : 2 * (l.access (.store w)).cache.size ≤ maxSize) :
    Doubled ttl limit (l.access (.store w)).cache.size (l.access (.store w)).admitted
      (l.access (.store w)) := by
  refine ⟨h.balanced.store w, fun _ => ⟨?_, Nat.le_refl _⟩⟩
  rw [threshold_of_sweeps hsweeps, h.within.limit_eq, nextThreshold, if_pos hsize,
    Nat.min_eq_left hdouble]

lemma Doubled.lt_admitted_of_sweeps (h : Doubled ttl limit n base l)
    (hsweeps : l.sweeps (.store w) = true) : base + n < (l.access (.store w)).admitted := by
  have hadmitted := l.admitted_le_access (.store w)
  have hstored := h.balanced.size_stored w
  have hover := overflows_iff.mp hsweeps
  rcases Nat.lt_or_ge (base + n) (l.access (.store w)).admitted with hlt | hge
  · exact hlt
  · obtain ⟨hthreshold, hsize⟩ := h.room (Nat.le_trans hadmitted hge)
    omega

lemma Doubled.store (h : Doubled ttl limit n base l) (w : Waiting) :
    Doubled ttl limit n base (l.access (.store w)) := by
  refine ⟨h.balanced.store w, fun hle => ?_⟩
  have hadmitted := l.admitted_le_access (.store w)
  have hstored := h.balanced.size_stored w
  obtain ⟨hthreshold, hsize⟩ := h.room (Nat.le_trans hadmitted hle)
  cases hsweeps : l.sweeps (.store w) with
  | true =>
    have hlt := h.lt_admitted_of_sweeps hsweeps
    omega
  | false =>
    rw [cache_store_of_not_sweeps hsweeps]
    exact ⟨hthreshold, by omega⟩

lemma Doubled.take (h : Doubled ttl limit n base l) (id : FlowId) :
    Doubled ttl limit n base (l.access (.take id)) := by
  refine ⟨h.balanced.take id, fun hle => ?_⟩
  obtain ⟨hthreshold, hsize⟩ := h.room hle
  exact ⟨hthreshold, Nat.le_trans (Nat.add_le_add_right (size_take_le _ id) _) hsize⟩

lemma Doubled.run (h : Doubled ttl limit n base l) {more : List Access}
    (hmore : ∀ now, .sweep now ∉ more) : Doubled ttl limit n base (l.run more) := by
  induction more using List.reverseRecOn with
  | nil => exact h
  | append_singleton more a ih =>
    simp only [List.mem_append, List.mem_singleton, not_or] at hmore
    have ih := ih fun now => (hmore now).1
    rw [run_concat]
    cases a with
    | store w => exact ih.store w
    | take id => exact ih.take id
    | sweep now => exact ((hmore now).2 rfl).elim

/-- A store within the limit does not sweep. A store whose sweep evicts nothing leaves more entries
than the limit, say `n`, and until a sweep is asked for no store sweeps before more than `n` have
found nothing under their identity, the one that sweeps counted in. And after any sweep that leaves
no more entries than the limit, the next store that exceeds the limit sweeps. -/
theorem sweeps_run (ttl : Nat) (limit : UInt64) (accesses : List Access) :
    let l := (new ttl limit.toNat).run accesses
    (∀ w, (l.cache.mark (.stored w)).size ≤ limit.toNat →
      l.cache.store w.id w.request w.since = (0, l.cache.mark (.stored w))) ∧
    (∀ w, l.sweeps (.store w) = true → (l.cache.store w.id w.request w.since).1 = 0 →
      let swept := l.access (.store w)
      let n := swept.cache.size
      limit.toNat < n ∧
      (2 * n ≤ maxSize → ∀ more v, (∀ now, .sweep now ∉ more) →
        (swept.run more).sweeps (.store v) = true →
        swept.admitted + (n + 1) ≤ (swept.run (more ++ [.store v])).admitted)) ∧
    (∀ a, l.sweeps a = true → (l.access a).cache.size ≤ limit.toNat → ∀ more,
      (∀ before w after, more = before ++ .store w :: after →
        (((l.access a).run before).cache.mark (.stored w)).size ≤ limit.toNat) →
      ∀ v, let c := ((l.access a).run more).cache
        limit.toNat < (c.mark (.stored v)).size →
          c.store v.id v.request v.since = (c.mark (.stored v)).sweep v.since) := by
  intro l
  have hmax : limit.toNat ≤ maxSize := Nat.le_pred_of_lt limit.toNat_lt_size
  have h : Bounded ttl limit.toNat l := (Bounded.new ttl limit.toNat).run hmax accesses
  refine ⟨?within, ?fruitless, ?reset⟩
  case within =>
    intro w hsize
    exact store_of_not_overflows (overflows_eq_false_iff.mpr (Nat.le_trans hsize h.within.limit_le))
  case fruitless =>
    intro w hsweeps hevicted swept n
    have hsize : limit.toNat < n := h.lt_size_of_sweeps hsweeps hevicted
    refine ⟨hsize, fun hdouble more v hmore hsweeps' => ?_⟩
    have hswept : Doubled ttl limit.toNat n swept.admitted swept :=
      .of_sweeps h hsweeps hsize hdouble
    rw [run_concat]
    exact (hswept.run hmore).lt_admitted_of_sweeps hsweeps'
  case reset =>
    intro a hsweeps hsize more hmore v c hexceeds
    have hreset : Reset limit.toNat (l.access a) := .of_sweeps h.within.limit_eq hsweeps hsize
    apply store_of_overflows
    rw [overflows_iff, (hreset.run hmore).threshold_eq]
    exact hexceeds

/-- A limit of one, and one entry. The next store sweeps in vain and leaves two, so that three more
flows have to come before a store sweeps again. Had there been a sweep at 20 instead, which leaves
nothing, it would be the second store from then on. -/
theorem sweeps_run_of_live_entries :
    let w (id : String) (since : Nat) : Waiting :=
      ⟨⟨id⟩, ⟨"GET", "/" ++ id, "", "", "", 0, "", "", ""⟩, since⟩
    let l := (new 10 1).run [.store (w "a" 0)]
    let swept := l.access (.store (w "b" 0))
    let more := [.store (w "c" 0), .store (w "c" 1), .store (w "d" 1)]
    let emptied := (l.access (.sweep 20)).run [.store (w "f" 20)]
    1 < swept.cache.size ∧ (swept.run more).sweeps (.store (w "e" 1)) = true ∧
      swept.admitted + 3 ≤ (swept.run (more ++ [.store (w "e" 1)])).admitted ∧
      emptied.cache.store ⟨"g"⟩ (w "g" 20).request 20 =
        (emptied.cache.mark (.stored (w "g" 20))).sweep 20 := by
  intro w l swept more emptied
  obtain ⟨-, hfruitless, hreset⟩ := sweeps_run 10 1 [.store (w "a" 0)]
  obtain ⟨hsize, hmore⟩ := hfruitless (w "b" 0) (by decide +kernel) (by decide +kernel)
  have hsweeps : (swept.run more).sweeps (.store (w "e" 1)) = true := by decide +kernel
  have hadmitted := hmore (by decide +kernel) more (w "e" 1) (by simp [more]) hsweeps
  have hwithin : ∀ before v after, [.store (w "f" 20)] = before ++ .store v :: after →
      (((l.access (.sweep 20)).run before).cache.mark (.stored v)).size ≤ 1 := by
    intro before v after heq
    cases before with
    | nil =>
      obtain ⟨⟨rfl⟩, -⟩ := List.cons.inj heq
      decide +kernel
    | cons _ before => simp at heq
  have hemptied :=
    hreset (.sweep 20) rfl (by decide +kernel) _ hwithin (w "g" 20) (by decide +kernel)
  exact ⟨hsize, hsweeps, hadmitted, hemptied⟩

end Ledger

end TrafficFeed.Correlation
