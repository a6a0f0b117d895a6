import TrafficFeed.Proofs.Correlation.History

/-!
# The account of what waits

Stores, takes and sweeps in any order and at any times, with a record of what was done and how it
came out. What a take finds can be read off the record, and the requests that ever waited are those
that were taken, those that were evicted and those that still wait.
-/

namespace TrafficFeed.Correlation

/-! ### Keeping account -/

/-- What can be asked of the requests that wait. -/
inductive Access where
  | store (w : Waiting)
  | take (id : FlowId)
  | sweep (now : Nat)
  deriving DecidableEq, Repr

/-- The requests that wait, and the account of them. -/
structure Ledger where
  cache : Correlation
  /-- What has been done, the oldest first. -/
  marks : List Mark
  /-- How many stores have found nothing under their identity. -/
  admitted : Nat
  /-- How many takes have found a request. -/
  returned : Nat
  /-- The sum of the evictions that stores and sweeps have told. -/
  evicted : Nat

namespace Ledger

def new (ttl limit : Nat) : Ledger := ⟨.new ttl limit, [], 0, 0, 0⟩

/-- Does what is asked and enters it. A store that takes the entries above the threshold is entered
together with its sweep. -/
def access (l : Ledger) : Access → Ledger
  | .store w =>
    let (evicted, cache) := l.cache.store w.id w.request w.since
    { l with
      cache
      marks := l.marks ++ .stored w ::
        if l.cache.overflows w.id w.request w.since then [.swept w.since] else []
      admitted := l.admitted + if l.cache.get? w.id = none then 1 else 0
      evicted := l.evicted + evicted }
  | .take id =>
    let (request, cache) := l.cache.take id
    { l with
      cache
      marks := l.marks ++ [.taken id]
      returned := l.returned + if request = none then 0 else 1 }
  | .sweep now =>
    let (evicted, cache) := l.cache.sweep now
    { l with cache, marks := l.marks ++ [.swept now], evicted := l.evicted + evicted }

def run (l : Ledger) (accesses : List Access) : Ledger := accesses.foldl access l

@[simp] lemma run_nil (l : Ledger) : l.run [] = l := rfl

lemma run_concat (l : Ledger) (accesses : List Access) (a : Access) :
    l.run (accesses ++ [a]) = (l.run accesses).access a := by
  simp [run]

end Ledger

/-! ### The number of entries -/

variable {c : Correlation} {id : FlowId}

lemma get?_eq_none_iff : c.get? id = none ↔ ∀ w ∈ c.entries, w.id ≠ id := by
  simp [get?]

/-- Without the entry under an identity there is one less, if there was one. -/
lemma length_filter_ne (h : (c.entries.map (·.id)).Nodup) (id : FlowId) :
    (c.entries.filter fun w => w.id ≠ id).length + (if c.get? id = none then 0 else 1) =
      c.size := by
  simp only [get?_eq_none_iff, size]
  generalize c.entries = entries at h
  induction entries with
  | nil => simp
  | cons v entries ih =>
    rw [List.map_cons, List.nodup_cons] at h
    have ih := ih h.2
    by_cases hv : v.id = id
    · have hrest : ∀ w ∈ entries, w.id ≠ id := by
        intro w hw heq
        apply h.1
        rw [hv, ← heq]
        exact List.mem_map_of_mem hw
      rw [if_pos hrest] at ih
      simp [hv] at ih ⊢
      exact ih
    · simp [hv] at ih ⊢
      omega

lemma size_put (h : (c.entries.map (·.id)).Nodup) (id : FlowId) (request : CapturedRequest)
    (now : Nat) :
    (c.put id request now).size = c.size + if c.get? id = none then 1 else 0 := by
  have hlength := length_filter_ne h id
  simp only [size, entries_put, List.length_cons] at hlength ⊢
  split at hlength <;> simp_all

lemma size_take (h : (c.entries.map (·.id)).Nodup) (id : FlowId) :
    (c.take id).2.size + (if (c.take id).1 = none then 0 else 1) = c.size := by
  exact length_filter_ne h id

/-- What a store keeps and what it evicts is all there is after the request has been put. -/
lemma store_count (c : Correlation) (id : FlowId) (request : CapturedRequest) (now : Nat) :
    (c.store id request now).2.size + (c.store id request now).1 =
      (c.put id request now).size := by
  unfold store
  dsimp only
  split
  · exact sweep_count _ now
  · rfl

lemma evicted_store (c : Correlation) (id : FlowId) (request : CapturedRequest) (now : Nat) :
    (c.store id request now).2.evicted =
      c.evicted + UInt64.ofNat (c.store id request now).1 := by
  unfold store
  dsimp only
  split
  · rfl
  · simp [put]

/-! ### What a store and a sweep leave -/

lemma mem_entries_sweep {w : Waiting} {now : Nat} :
    w ∈ (c.sweep now).2.entries ↔ w ∈ c.entries ∧ now - w.since < c.ttl := by
  simp [fresh]

lemma mem_entries_put {v w : Waiting} :
    w ∈ (c.put v.id v.request v.since).entries ↔ w = v ∨ w ∈ c.entries ∧ w.id ≠ v.id := by
  simp

lemma store_of_overflows {v : Waiting} (h : c.overflows v.id v.request v.since = true) :
    c.store v.id v.request v.since = (c.put v.id v.request v.since).sweep v.since := by
  simp only [overflows, decide_eq_true_eq] at h
  exact if_pos h

lemma store_of_not_overflows {v : Waiting} (h : c.overflows v.id v.request v.since = false) :
    c.store v.id v.request v.since = (0, c.put v.id v.request v.since) := by
  simp only [overflows, decide_eq_false_iff_not] at h
  exact if_neg h

/-- A sweep at the moment of a store does not find the new entry stale. -/
lemma mem_entries_store (h : 0 < c.ttl) (v : Waiting) :
    v ∈ (c.store v.id v.request v.since).2.entries := by
  have hput : v ∈ (c.put v.id v.request v.since).entries := mem_entries_put.mpr (.inl rfl)
  cases hover : c.overflows v.id v.request v.since with
  | true =>
    rw [store_of_overflows hover, mem_entries_sweep]
    refine ⟨hput, ?_⟩
    rw [Nat.sub_self]
    exact h
  | false =>
    rw [store_of_not_overflows hover]
    exact hput

lemma Mark.ends_eq_false_iff {ttl : Nat} {w : Waiting} {m : Mark} :
    m.ends ttl w = false ↔ (∀ v, m = .stored v → v.id ≠ w.id) ∧ m ≠ .taken w.id ∧
      ∀ now, m = .swept now → now - w.since < ttl := by
  cases m <;> simp [Mark.ends, fresh]

/-! ### The account along a run -/

namespace Ledger

/-- The account agrees with what waits. -/
structure Balanced (ttl limit : Nat) (l : Ledger) : Prop where
  cache : l.cache = (Correlation.new ttl limit).replay l.marks
  count : l.admitted = l.returned + l.evicted + l.cache.size
  told : l.cache.evicted = UInt64.ofNat l.evicted

variable {ttl limit : Nat} {l : Ledger}

lemma Balanced.nodup (h : Balanced ttl limit l) : (l.cache.entries.map (·.id)).Nodup := by
  rw [h.cache]
  exact nodup_replay rfl l.marks

lemma Balanced.ttl_eq (h : Balanced ttl limit l) : l.cache.ttl = ttl := by
  rw [h.cache, ttl_replay]
  rfl

lemma Balanced.new (ttl limit : Nat) : Balanced ttl limit (new ttl limit) := by
  constructor <;> rfl

lemma Balanced.store (h : Balanced ttl limit l) (w : Waiting) :
    Balanced ttl limit (l.access (.store w)) := by
  constructor
  · simp only [access]
    rw [store_eq_replay, replay_append, ← h.cache]
  · have hput := size_put h.nodup w.id w.request w.since
    have hstore := store_count l.cache w.id w.request w.since
    have hcount := h.count
    simp only [access]
    omega
  · simp only [access]
    rw [evicted_store, h.told, UInt64.ofNat_add]

lemma Balanced.take (h : Balanced ttl limit l) (id : FlowId) :
    Balanced ttl limit (l.access (.take id)) := by
  constructor
  · simp only [access]
    rw [replay_concat, ← h.cache]
    rfl
  · have htake := size_take h.nodup id
    have hcount := h.count
    simp only [access]
    omega
  · exact h.told

lemma Balanced.sweep (h : Balanced ttl limit l) (now : Nat) :
    Balanced ttl limit (l.access (.sweep now)) := by
  constructor
  · simp only [access]
    rw [replay_concat, ← h.cache]
    rfl
  · have hsweep := sweep_count l.cache now
    have hcount := h.count
    simp only [access]
    omega
  · simp only [access]
    rw [UInt64.ofNat_add, ← h.told]
    rfl

lemma Balanced.run (h : Balanced ttl limit l) (accesses : List Access) :
    Balanced ttl limit (l.run accesses) := by
  induction accesses using List.reverseRecOn with
  | nil => exact h
  | append_singleton accesses a ih =>
    rw [run_concat]
    cases a with
    | store w => exact ih.store w
    | take id => exact ih.take id
    | sweep now => exact ih.sweep now

/-- A take finds a request if the latest store under the identity was of that request, and since
then nothing was taken under it and no sweep, asked for or made by a store, was late enough. -/
lemma Balanced.take_eq_some_iff (h : Balanced ttl limit l) {id : FlowId}
    {request : CapturedRequest} :
    (l.cache.take id).1 = some request ↔ ∃ since before after,
      l.marks = before ++ .stored ⟨id, request, since⟩ :: after ∧
      ∀ m ∈ after, (∀ v, m = .stored v → v.id ≠ id) ∧ m ≠ .taken id ∧
        ∀ now, m = .swept now → now - since < ttl := by
  have hget : (l.cache.take id).1 = ((Correlation.new ttl limit).replay l.marks).get? id := by
    rw [← h.cache]
    rfl
  rw [hget, get?_replay]
  constructor
  · rintro ⟨⟨_, _, since⟩, ⟨before, after, hmarks, hafter⟩, rfl, rfl⟩
    refine ⟨since, before, after, hmarks, ?_⟩
    intro m hm
    exact Mark.ends_eq_false_iff.mp (hafter m hm)
  · rintro ⟨since, before, after, hmarks, hafter⟩
    refine ⟨⟨id, request, since⟩, ⟨before, after, hmarks, ?_⟩, rfl, rfl⟩
    intro m hm
    exact Mark.ends_eq_false_iff.mpr (hafter m hm)

/-- Whatever was stored, taken and swept before, and at whatever times: a take finds what the
record says; a store keeps its own entry; a sweep leaves the young entries and no others, also if a
store makes it; and the stores under a free identity are as many as the takes that found a request,
the evictions and the entries together. -/
theorem balance_run (ttl limit : Nat) (httl : 0 < ttl) (accesses : List Access) :
    let l := (new ttl limit).run accesses
    (∀ id request, (l.cache.take id).1 = some request ↔ ∃ since before after,
      l.marks = before ++ .stored ⟨id, request, since⟩ :: after ∧
      ∀ m ∈ after, (∀ v, m = .stored v → v.id ≠ id) ∧ m ≠ .taken id ∧
        ∀ now, m = .swept now → now - since < ttl) ∧
    (∀ v : Waiting, v ∈ (l.cache.store v.id v.request v.since).2.entries) ∧
    (∀ now w, w ∈ (l.cache.sweep now).2.entries ↔
      w ∈ l.cache.entries ∧ now - w.since < ttl) ∧
    (∀ v : Waiting, l.cache.overflows v.id v.request v.since = true →
      ∀ w, w ∈ (l.cache.store v.id v.request v.since).2.entries ↔
        (w = v ∨ w ∈ l.cache.entries ∧ w.id ≠ v.id) ∧ v.since - w.since < ttl) ∧
    l.admitted = l.returned + l.evicted + l.cache.size ∧
    l.cache.evicted = UInt64.ofNat l.evicted := by
  intro l
  have h : Balanced ttl limit l := (Balanced.new ttl limit).run accesses
  have hpos : 0 < l.cache.ttl := by
    rw [h.ttl_eq]
    exact httl
  refine ⟨fun id request => h.take_eq_some_iff, ?_, ?_, ?_, h.count, h.told⟩
  · intro v
    exact mem_entries_store hpos v
  · intro now w
    rw [mem_entries_sweep, h.ttl_eq]
  · intro v hover w
    have httl : (l.cache.put v.id v.request v.since).ttl = ttl := h.ttl_eq
    rw [store_of_overflows hover, mem_entries_sweep, mem_entries_put, httl]

/-- A limit of one and a clock that goes back: the second store makes a sweep, which evicts the
first entry, and the third takes the place of the second at an earlier time than either. -/
theorem balance_run_of_overflow :
    let w (id : String) (since : Nat) : Waiting :=
      ⟨⟨id⟩, ⟨"GET", "/" ++ id, "", "", "", 0, "", "", ""⟩, since⟩
    let l := (new 10 1).run [.store (w "a" 5), .store (w "b" 20), .store (w "b" 0), .take ⟨"a"⟩]
    l.admitted = 2 ∧ l.evicted = 1 ∧ l.admitted = l.returned + l.evicted + l.cache.size ∧
      (l.cache.take ⟨"b"⟩).1 = some (w "b" 0).request ∧
      w "c" 30 ∈ (l.cache.store ⟨"c"⟩ (w "c" 30).request 30).2.entries := by
  intro w l
  obtain ⟨-, hstore, -, -, hcount, -⟩ := balance_run 10 1 (by decide)
    [.store (w "a" 5), .store (w "b" 20), .store (w "b" 0), .take ⟨"a"⟩]
  refine ⟨by decide +kernel, by decide +kernel, hcount, by decide +kernel, hstore (w "c" 30)⟩

end Ledger

end TrafficFeed.Correlation
