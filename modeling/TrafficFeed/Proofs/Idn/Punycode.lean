import Mathlib.Tactic.IntervalCases
import Mathlib.Tactic.Ring
import TrafficFeed.Idn.Punycode
import TrafficFeed.Proofs.Text.Cut

/-!
# Names in ASCII are read back

Every name is read back from its form in ASCII. A count is read back digit by digit, whatever the
weights of its digits. The counts put the characters back in the order in which the writer has
passed them: code point by code point, and for each of them place by place.
-/

namespace TrafficFeed.Idn.Punycode

/-! ### Digits -/

lemma digit?_digit {n : Nat} (h : n < 36) : digit? (digit n) = some n := by
  interval_cases n <;> rfl

/-- A digit is a small letter or a decimal digit. -/
def IsDigit (c : Char) : Prop := ∃ n < 36, c = digit n

lemma IsDigit.ne_hyphen {c : Char} (h : IsDigit c) : c ≠ '-' := by
  obtain ⟨n, hn, rfl⟩ := h
  interval_cases n <;> decide

lemma isDigit_of_mem_writeCount {bias k q : Nat} {c : Char} (h : c ∈ writeCount bias k q) :
    IsDigit c := by
  have hpos := threshold_pos bias k
  have hle := threshold_le bias k
  fun_induction writeCount bias k q with
  | case1 k q t hlt =>
    rw [List.mem_singleton] at h
    exact ⟨q, by omega, h⟩
  | case2 k q t hge ih =>
    have hmod := Nat.mod_lt (q - t) (show 0 < 36 - t by omega)
    obtain rfl | h := List.mem_cons.mp h
    · exact ⟨_, by omega, rfl⟩
    · exact ih h (threshold_pos _ _) (threshold_le _ _)

lemma isDigit_of_mem_writeCounts {bias size : Nat} {isFirst : Bool} {qs : List Nat} {c : Char}
    (h : c ∈ writeCounts bias size isFirst qs) : IsDigit c := by
  induction qs generalizing bias size isFirst with
  | nil => simp [writeCounts] at h
  | cons q qs ih =>
    rw [writeCounts, List.mem_append] at h
    exact h.elim isDigit_of_mem_writeCount ih

/-! ### Counts -/

/-- A count is read back, whatever has been read of it before. -/
lemma readCount_writeCount (bias k q sum weight : Nat) (rest : List Char) :
    readCount bias k sum weight (writeCount bias k q ++ rest) = some (sum + q * weight, rest) := by
  fun_induction writeCount bias k q generalizing sum weight with
  | case1 k q t hlt =>
    have hle : t ≤ 26 := threshold_le bias k
    have hdigit := digit?_digit (show q < 36 by omega)
    have ht : q < threshold bias k := hlt
    simp [readCount, hdigit, ht]
  | case2 k q t hge ih =>
    have hpos : 1 ≤ t := threshold_pos bias k
    have hle : t ≤ 26 := threshold_le bias k
    have hmod := Nat.mod_lt (q - t) (show 0 < 36 - t by omega)
    have hdigit := digit?_digit (show t + (q - t) % (36 - t) < 36 by omega)
    have hlast : ¬ t + (q - t) % (36 - t) < threshold bias k :=
      Nat.not_lt.mpr (Nat.le_add_right _ _)
    have hvalue : q = t + (q - t) % (36 - t) + (36 - t) * ((q - t) / (36 - t)) := by
      have := Nat.mod_add_div (q - t) (36 - t)
      omega
    simp only [readCount, List.cons_append, hdigit, Option.bind_eq_bind, Option.bind_some,
      if_neg hlast]
    rw [ih]
    congr 2
    conv_rhs => rw [hvalue]
    ring

lemma readCounts_writeCounts (bias size : Nat) (isFirst : Bool) (qs : List Nat) :
    readCounts bias size isFirst (writeCounts bias size isFirst qs) = some qs := by
  induction qs generalizing bias size isFirst with
  | nil => simp [writeCounts, readCounts]
  | cons q qs ih =>
    have hread := readCount_writeCount bias 0 q 0 1
      (writeCounts (adapt q (size + 1) isFirst) (size + 1) false qs)
    rw [Nat.zero_add, Nat.mul_one] at hread
    have hne : writeCount bias 0 q ++ writeCounts (adapt q (size + 1) isFirst) (size + 1) false qs ≠
        [] := by
      intro hnil
      rw [hnil] at hread
      cases hread
    rw [writeCounts, readCounts, if_neg hne]
    split
    · next hnone => simp [hread] at hnone
    · next q' rest hsome =>
      obtain ⟨rfl, rfl⟩ := Prod.mk.inj (Option.some.inj (hread.symm.trans hsome))
      rw [ih]
      rfl

/-! ### Putting characters in -/

/-- The reader of a name of `size` characters stands at the place `i` of the code point `n`; when
it has passed over `passed` places it is at the place `place` of the code point `m`. -/
structure Reaches (size n i passed m place : Nat) : Prop where
  le : n ≤ m
  passes : i + passed = (m - n) * (size + 1) + place

/-- A count puts its code point in at its place. -/
lemma insertAll_of_reaches {front back : List Nat} {n i q m : Nat} (qs : List Nat)
    (h : Reaches (front ++ back).length n i q m front.length) :
    insertAll (front ++ back) n i (q :: qs) =
      insertAll (front ++ m :: back) m (front.length + 1) qs := by
  have hlt : front.length < (front ++ back).length + 1 := by
    rw [List.length_append]
    omega
  have hle := h.le
  have hdiv : (i + q) / ((front ++ back).length + 1) = m - n := by
    rw [h.passes, Nat.mul_comm, Nat.mul_add_div (Nat.succ_pos _), Nat.div_eq_of_lt hlt]
    rfl
  have hmod : (i + q) % ((front ++ back).length + 1) = front.length := by
    rw [h.passes, Nat.mul_comm, Nat.mul_add_mod, Nat.mod_eq_of_lt hlt]
  have hm : n + (m - n) = m := by omega
  simp only [insertAll, hdiv, hmod, hm, List.take_left, List.drop_left]

/-- The counts of a code point put it in at all its places. The writer stands before `after`, and
of what it has passed `front` are the members up to the code point. -/
lemma insertAll_countsOf (m : Nat) (later : List Nat) (after : List Nat) :
    ∀ (front : List Nat) (passed n i : Nat),
      Reaches (front ++ after.filter (· < m)).length n i passed m front.length →
      let (qs, last) := countsOf m passed after
      let name := front ++ after.filter (· ≤ m)
      name.length = (front ++ after.filter (· < m)).length + qs.length ∧
        ∃ n' i', Reaches name.length n' i' last m name.length ∧
          insertAll (front ++ after.filter (· < m)) n i (qs ++ later) =
            insertAll name n' i' later := by
  induction after with
  | nil =>
    intro front passed n i h
    simp only [List.filter_nil, List.append_nil] at h
    exact ⟨by simp, n, i, by simpa [countsOf] using h, by simp⟩
  | cons c cs ih =>
    intro front passed n i h
    rcases Nat.lt_trichotomy c m with hlt | rfl | hgt
    case inl =>
      -- The reader has this member already, and passes over it.
      have hle : c ≤ m := Nat.le_of_lt hlt
      have hrest := ih (front ++ [c]) (passed + 1) n i
      simp only [List.filter_cons, hlt, hle, decide_true, if_true, countsOf, List.append_assoc,
        List.singleton_append, List.length_append, List.length_singleton] at h hrest ⊢
      refine hrest ⟨h.le, ?_⟩
      have := h.passes
      omega
    case inr.inl =>
      have hput := insertAll_of_reaches ((countsOf c 0 cs).1 ++ later)
        (show Reaches (front ++ cs.filter (· < c)).length n i passed c front.length by
          simpa using h)
      have hrest := ih (front ++ [c]) 0 c (front.length + 1) ⟨le_rfl, by simp⟩
      simp only [List.filter_cons, le_refl, lt_irrefl, decide_true, decide_false, if_true,
        Bool.false_eq_true, if_false, countsOf, List.append_assoc, List.cons_append,
        List.nil_append, List.length_append, List.length_cons] at hrest ⊢
      obtain ⟨hlength, n', i', hreaches, hinsert⟩ := hrest
      exact ⟨by omega, n', i', hreaches, hput.trans hinsert⟩
    case inr.inr =>
      -- This member comes later; the reader does not know of it.
      have hlt : ¬ c < m := by omega
      have hle : ¬ c ≤ m := by omega
      have hne : c ≠ m := by omega
      simp only [List.filter_cons, hlt, hle, decide_false, Bool.false_eq_true, if_false, countsOf,
        hne] at h ⊢
      exact ih front passed n i h

/-- The counts of the code points from `n` on put them in. -/
lemma insertAll_countsFrom (cs : List Nat) (ms : List Nat) :
    ∀ (m passed n i : Nat), ms.Pairwise (· < ·) → (∀ k ∈ ms, m ≤ k) →
      (∀ c ∈ cs, m ≤ c → c ∈ ms) →
      Reaches (cs.filter (· < m)).length n i passed m 0 →
      insertAll (cs.filter (· < m)) n i
        (countsFrom cs m passed (cs.filter (· < m)).length ms) = cs := by
  induction ms with
  | nil =>
    intro m passed n i _ _ hall _
    rw [countsFrom, insertAll, List.filter_eq_self]
    intro c hc
    by_contra hlt
    exact absurd (hall c hc (by simpa using hlt)) List.not_mem_nil
  | cons k ks ih =>
    intro m passed n i hrising hle hall h
    obtain ⟨hfirst, hrising⟩ := List.pairwise_cons.mp hrising
    have hmk : m ≤ k := hle k List.mem_cons_self
    -- Between the two code points the name has none.
    have hgap : cs.filter (· < k) = cs.filter (· < m) := by
      refine List.filter_congr fun c hc => ?_
      by_cases hcm : m ≤ c
      · have hkc : k ≤ c := by
          rcases List.mem_cons.mp (hall c hc hcm) with rfl | hmem
          · exact le_rfl
          · exact Nat.le_of_lt (hfirst c hmem)
        simp only [decide_eq_decide]
        omega
      · simp only [decide_eq_decide]
        omega
    have hreaches : Reaches (cs.filter (· < k)).length n i
        (passed + (k - m) * ((cs.filter (· < k)).length + 1)) k 0 := by
      rw [hgap]
      refine ⟨h.le.trans hmk, ?_⟩
      have hsplit : k - n = (m - n) + (k - m) := by
        have := h.le
        omega
      rw [hsplit, Nat.add_mul, ← Nat.add_assoc, h.passes]
      rfl
    have hone := insertAll_countsOf k (countsFrom cs (k + 1)
      ((countsOf k (passed + (k - m) * ((cs.filter (· < k)).length + 1)) cs).2 + 1)
      (cs.filter (· ≤ k)).length ks) cs [] _ n i hreaches
    obtain ⟨hlength, n', i', hreaches', hinsert⟩ := hone
    simp only [List.nil_append] at hlength hreaches' hinsert
    have hnext : cs.filter (· ≤ k) = cs.filter (· < k + 1) :=
      List.filter_congr fun c _ => decide_eq_decide.mpr Nat.lt_succ_iff.symm
    rw [countsFrom, ← hgap]
    simp only [← hlength]
    rw [hinsert, hnext]
    refine ih (k + 1) _ n' i' hrising hfirst (fun c hc hkc => ?_) ?_
    · rcases List.mem_cons.mp (hall c hc (by omega)) with rfl | hmem
      · omega
      · exact hmem
    · rw [← hnext]
      refine ⟨hreaches'.le.trans (Nat.le_succ k), ?_⟩
      have hstep : k + 1 - n' = (k - n') + 1 := Nat.succ_sub hreaches'.le
      rw [hstep, Nat.add_mul, ← Nat.add_assoc, hreaches'.passes]
      omega

/-! ### The code points of a name -/

lemma mem_insertNew {m k : Nat} {ks : List Nat} : k ∈ insertNew m ks ↔ k = m ∨ k ∈ ks := by
  induction ks with
  | nil => simp [insertNew]
  | cons l ls ih =>
    simp only [insertNew]
    split
    · simp
    · split
      · next heq => simp [heq]
      · simp only [List.mem_cons, ih]
        tauto

lemma pairwise_insertNew {m : Nat} {ks : List Nat} (h : ks.Pairwise (· < ·)) :
    (insertNew m ks).Pairwise (· < ·) := by
  induction ks with
  | nil => exact List.pairwise_singleton _ _
  | cons l ls ih =>
    obtain ⟨hfirst, hrest⟩ := List.pairwise_cons.mp h
    simp only [insertNew]
    split
    · next hlt =>
      refine List.pairwise_cons.mpr ⟨fun k hk => ?_, h⟩
      rcases List.mem_cons.mp hk with rfl | hk
      · exact hlt
      · exact hlt.trans (hfirst k hk)
    · split
      · exact h
      · next hge hne =>
        refine List.pairwise_cons.mpr ⟨fun k hk => ?_, ih hrest⟩
        rcases mem_insertNew.mp hk with rfl | hk
        · omega
        · exact hfirst k hk

lemma mem_rising {ns : List Nat} {n : Nat} : n ∈ rising ns ↔ n ∈ ns := by
  induction ns with
  | nil => exact Iff.rfl
  | cons m ms ih =>
    have hfoldr : rising (m :: ms) = insertNew m (rising ms) := rfl
    rw [hfoldr, mem_insertNew, ih, List.mem_cons]

lemma pairwise_rising (ns : List Nat) : (rising ns).Pairwise (· < ·) := by
  induction ns with
  | nil => exact List.Pairwise.nil
  | cons m ms ih => exact pairwise_insertNew ih

lemma insertAll_counts (cs : List Nat) :
    insertAll (cs.filter isBasic) 0x80 0 (counts cs) = cs := by
  have hbasic : cs.filter isBasic = cs.filter (· < 0x80) := rfl
  have hlarge : ∀ {m}, m ∈ rising (cs.filter fun n => !isBasic n) ↔ m ∈ cs ∧ 0x80 ≤ m := by
    intro m
    rw [mem_rising, List.mem_filter]
    simp [isBasic]
  rw [counts, hbasic]
  exact insertAll_countsFrom cs _ 0x80 0 0x80 0 (pairwise_rising _) (fun k hk => (hlarge.mp hk).2)
    (fun c hc hle => hlarge.mpr ⟨hc, hle⟩) ⟨le_rfl, by simp⟩

/-! ### Names -/

lemma splitLast?_of_notMem {sep : Char} {cs : List Char} (h : sep ∉ cs) :
    splitLast? sep cs = none := by
  induction cs with
  | nil => rfl
  | cons c cs ih =>
    simp only [List.mem_cons, not_or] at h
    simp [splitLast?, ih h.2, Ne.symm h.1]

lemma splitLast?_append_cons {sep : Char} {after : List Char} (h : sep ∉ after)
    (before : List Char) : splitLast? sep (before ++ sep :: after) = some (before, after) := by
  induction before with
  | nil => simp [splitLast?, splitLast?_of_notMem h]
  | cons c cs ih => simp [splitLast?, ih]

lemma char?_toNat (c : Char) : char? c.toNat = some c := by
  have hvalid : c.toNat.isValidChar := c.valid
  rw [char?, if_pos hvalid, Char.ofNat_toNat]

lemma mapM_char? (name : List Char) : (name.map Char.toNat).mapM char? = some name := by
  induction name with
  | nil => rfl
  | cons c cs ih => simp [char?_toNat, ih]

/-- A character of a name in ASCII is one of the name, or stands for others. -/
lemma mem_encode {name : List Char} {c : Char} (h : c ∈ encode name) :
    c ∈ name ∧ c.toNat < 0x80 ∨ c = '-' ∨ IsDigit c := by
  simp only [encode, List.mem_append, List.mem_filter] at h
  rcases h with (⟨hmem, hbasic⟩ | hsep) | hdigit
  · exact .inl ⟨hmem, by simpa [isBasic] using hbasic⟩
  · split at hsep
    · simp at hsep
    · exact .inr (.inl (List.mem_singleton.mp hsep))
  · exact .inr (.inr (isDigit_of_mem_writeCounts hdigit))

/-- The ASCII characters stand before the last hyphen, if there are any. -/
lemma decode_append {basic digits : List Char} (h : '-' ∉ digits) :
    decode (basic ++ (if basic.isEmpty then [] else ['-']) ++ digits) =
      (readCounts firstBias basic.length true digits).bind fun qs =>
        (insertAll (basic.map Char.toNat) 0x80 0 qs).mapM char? := by
  cases basic with
  | nil => simp [decode, splitLast?_of_notMem h]
  | cons b bs =>
    have hsplit := splitLast?_append_cons h (b :: bs)
    simp only [List.isEmpty_cons, Bool.false_eq_true, if_false, List.append_assoc,
      List.cons_append] at hsplit ⊢
    simp [decode, hsplit]

lemma mem_insertAll {name qs : List Nat} {n i k : Nat} (h : k ∈ insertAll name n i qs) :
    k ∈ name ∨ n ≤ k := by
  induction qs generalizing name n i with
  | nil => exact .inl h
  | cons q qs ih =>
    rcases ih h with hmem | hle
    · rw [List.mem_append, List.mem_cons] at hmem
      rcases hmem with htake | rfl | hdrop
      · exact .inl (List.mem_of_mem_take htake)
      · exact .inr (Nat.le_add_right _ _)
      · exact .inl (List.mem_of_mem_drop hdrop)
    · exact .inr (Nat.le_of_add_right_le hle)

lemma mem_of_splitLast? {sep : Char} {cs before after : List Char} {c : Char}
    (h : splitLast? sep cs = some (before, after)) (hc : c ∈ before) : c ∈ cs := by
  induction cs generalizing before with
  | nil => simp [splitLast?] at h
  | cons d ds ih =>
    simp only [splitLast?] at h
    split at h
    · next before' after' hsplit =>
      obtain ⟨rfl, rfl⟩ := Prod.mk.inj (Option.some.inj h)
      rcases List.mem_cons.mp hc with rfl | hc
      · exact List.mem_cons_self
      · exact List.mem_cons_of_mem _ (ih hsplit hc)
    · split at h
      · obtain ⟨rfl, -⟩ := Prod.mk.inj (Option.some.inj h)
        exact absurd hc List.not_mem_nil
      · cases h

/-- What is read back from a text has no ASCII characters but those of the text. -/
lemma mem_of_decode {text name : List Char} (h : decode text = some name) {c : Char}
    (hc : c ∈ name) (hbasic : c.toNat < 0x80) : c ∈ text := by
  have hread : ∃ (basic : List Char) (qs : List Nat), (∀ c ∈ basic, c ∈ text) ∧
      (insertAll (basic.map Char.toNat) 0x80 0 qs).mapM char? = some name := by
    have hnone : ∀ c ∈ ([] : List Char), c ∈ text := fun c hc => absurd hc List.not_mem_nil
    simp only [decode, Option.bind_eq_bind] at h
    split at h
    · obtain ⟨qs, -, hname⟩ := Option.bind_eq_some_iff.mp h
      exact ⟨[], qs, hnone, hname⟩
    · next before after _ hlast =>
      obtain ⟨qs, -, hname⟩ := Option.bind_eq_some_iff.mp h
      exact ⟨before, qs, fun c hc => mem_of_splitLast? hlast hc, hname⟩
    · obtain ⟨qs, -, hname⟩ := Option.bind_eq_some_iff.mp h
      exact ⟨[], qs, hnone, hname⟩
  obtain ⟨basic, qs, hsub, hname⟩ := hread
  obtain ⟨k, hk, hchar⟩ := Text.exists_of_mem_mapM hname hc
  have hcode : c = Char.ofNat k ∧ k = c.toNat := by
    rw [char?] at hchar
    split at hchar
    · next hvalid =>
      obtain rfl := Option.some.inj hchar
      refine ⟨rfl, ?_⟩
      rw [Char.ofNat, dif_pos hvalid]
      rfl
    · cases hchar
  rcases mem_insertAll hk with hmem | hle
  · obtain ⟨d, hd, rfl⟩ := List.mem_map.mp hmem
    rw [hcode.1, Char.ofNat_toNat]
    exact hsub d hd
  · omega

/-- Every name is read back from its form in ASCII. -/
theorem decode_encode (name : List Char) : decode (encode name) = some name := by
  have hcodes : (name.filter fun c => isBasic c.toNat).map Char.toNat =
      (name.map Char.toNat).filter isBasic := by
    rw [List.filter_map]
    rfl
  unfold encode
  rw [decode_append fun hmem => (isDigit_of_mem_writeCounts hmem).ne_hyphen rfl,
    readCounts_writeCounts, Option.bind_some, hcodes, insertAll_counts, mapM_char?]

end TrafficFeed.Idn.Punycode
