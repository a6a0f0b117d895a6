import TrafficFeed.Idn.Domain
import TrafficFeed.Proofs.Idn.Punycode

/-!
# The form in ASCII is its own

A domain name in ASCII is mapped to itself, and its parts are read back as the labels that they
were written from. So it is its own form in ASCII, unless one of its parts has become too long to be
read back.
-/

namespace TrafficFeed.Idn

open TrafficFeed.Text

/-! ### Characters -/

/-- What a domain name in ASCII is made of. -/
structure Plain (c : Char) : Prop where
  ascii : c.toNat < 0x80
  small : c.toLower = c
  allowed : isForbidden c = false

lemma Plain.of_isDigit {c : Char} (h : Punycode.IsDigit c) : Plain c ∧ c ≠ '.' := by
  obtain ⟨n, hn, rfl⟩ := h
  interval_cases n <;> exact ⟨⟨by decide, by decide, by decide⟩, by decide⟩

lemma Plain.of_mem_asciiMark {c : Char} (h : c ∈ asciiMark) : Plain c ∧ c ≠ '.' := by
  simp only [asciiMark, List.mem_cons, List.not_mem_nil, or_false] at h
  rcases h with rfl | rfl | rfl | rfl <;> exact ⟨⟨by decide, by decide, by decide⟩, by decide⟩

variable {cs : List Char}

lemma isAscii_of_plain (h : ∀ c ∈ cs, Plain c) : isAscii cs = true :=
  List.all_eq_true.mpr fun c hc => decide_eq_true (h c hc).ascii

lemma composed_of_plain (h : ∀ c ∈ cs, Plain c) : composed cs = cs :=
  if_pos (isAscii_of_plain h)

lemma mapText_of_plain (h : ∀ c ∈ cs, Plain c) : mapText cs = some cs := by
  have hparts : cs.mapM mapChar = some (cs.map fun c => [c]) := by
    rw [mapM_eq_some_iff, List.forall₂_map_right_iff, List.forall₂_same]
    intro c hc
    rw [mapChar, if_pos (h c hc).ascii, (h c hc).small]
  rw [mapText, hparts]
  exact congrArg some (List.flatMap_singleton' cs)

/-! ### Labels -/

/-- A label that a part of a name has been read as, and found valid. -/
structure Proper (label : List Char) : Prop where
  clean : ∀ c ∈ label, c.toNat < 0x80 → isForbidden c = false ∧ c ≠ '.'
  stable : ∀ c ∈ label, isStable c = true
  unmarked : isAscii label = true → asciiMark.isPrefixOf label = false

variable {part label : List Char}

lemma Proper.of_readLabel (hread : readLabel part = some label)
    (hpart : ∀ c ∈ part, isForbidden c = false ∧ c ≠ '.') (hvalid : validLabel label = true) :
    Proper label := by
  have hstable : ∀ c ∈ label, isStable c = true := by
    simp only [validLabel, Bool.and_eq_true, List.all_eq_true] at hvalid
    exact hvalid.1.1.2
  simp only [readLabel] at hread
  split at hread
  · split at hread
    · split at hread
      · cases hread
      · next name hdecode =>
        split at hread
        · cases hread
        · next hascii =>
          obtain rfl := Option.some.inj hread
          refine ⟨fun c hc hbasic => hpart c ?_, hstable, fun h => absurd h hascii⟩
          exact List.mem_of_mem_drop (Punycode.mem_of_decode hdecode hc hbasic)
    · cases hread
  · next hmark =>
    obtain rfl := Option.some.inj hread
    exact ⟨fun c hc _ => hpart c hc, hstable, fun _ => Bool.eq_false_iff.mpr hmark⟩

lemma Proper.plain (h : Proper label) {c : Char} (hc : c ∈ label) (hbasic : c.toNat < 0x80) :
    Plain c ∧ c ≠ '.' := by
  obtain ⟨hallowed, hdot⟩ := h.clean c hc hbasic
  have hstable := h.stable c hc
  rw [isStable, mapChar, if_pos hbasic] at hstable
  exact ⟨⟨hbasic, by simpa using hstable, hallowed⟩, hdot⟩

lemma Proper.plain_of_writeLabel (h : Proper label) (hwrite : writeLabel label = some part)
    {c : Char} (hc : c ∈ part) : Plain c ∧ c ≠ '.' := by
  unfold writeLabel at hwrite
  split at hwrite
  · next hascii =>
    obtain rfl := Option.some.inj hwrite
    exact h.plain hc (by simpa using List.all_eq_true.mp hascii c hc)
  · split at hwrite
    · obtain rfl := Option.some.inj hwrite
      rcases List.mem_append.mp hc with hmark | hc
      · exact Plain.of_mem_asciiMark hmark
      · rcases Punycode.mem_encode hc with ⟨hmem, hbasic⟩ | rfl | hdigit
        · exact h.plain hmem hbasic
        · exact Plain.of_mem_asciiMark (by decide)
        · exact Plain.of_isDigit hdigit
    · cases hwrite

/-- Whether a part of a domain name can be read back as a label. -/
def FitPart (part : List Char) : Prop :=
  asciiMark.isPrefixOf part = true → part.length ≤ asciiMark.length + maxDecoded

/-- The form of a label in ASCII is read back as the label, unless it is too long. -/
lemma Proper.readLabel_of_writeLabel (h : Proper label) (hwrite : writeLabel label = some part)
    (hfit : FitPart part) : readLabel part = some label := by
  have hplain := isAscii_of_plain fun c hc => (h.plain_of_writeLabel hwrite hc).1
  unfold writeLabel at hwrite
  split at hwrite
  · next hascii =>
    obtain rfl := Option.some.inj hwrite
    simp [readLabel, h.unmarked hascii]
  · next hascii =>
    split at hwrite
    · obtain rfl := Option.some.inj hwrite
      have hmark : asciiMark.isPrefixOf (asciiMark ++ Punycode.encode label) = true :=
        List.isPrefixOf_iff_prefix.mpr (List.prefix_append _ _)
      have hlength := hfit hmark
      rw [List.length_append, Nat.add_le_add_iff_left] at hlength
      simp [readLabel, hmark, hplain, hlength, Punycode.decode_encode, hascii]
    · cases hwrite

lemma readLabel_of_not_fitPart (h : ¬ FitPart part) : readLabel part = none := by
  simp only [FitPart, Classical.not_imp, Nat.not_le] at h
  have hlong : ¬ (part.drop asciiMark.length).length ≤ maxDecoded := by
    rw [List.length_drop]
    omega
  simp only [readLabel, h.1, hlong, and_false, if_true, if_false]

/-! ### Domain names -/

/-- Whether every part of a domain name can be read back as a label. -/
def Fit (domain : List Char) : Prop := ∀ part ∈ cut '.' domain, FitPart part

/-- What a name and its form in ASCII have in common: the labels. -/
structure Written (domain : List Char) (labels parts : List (List Char)) : Prop where
  ne_nil : labels ≠ []
  proper : ∀ label ∈ labels, Proper label
  valid : labels.all validLabel = true ∧
    (labels.any runsRightToLeft = true → labels.all directionClear = true)
  writes : labels.mapM writeLabel = some parts
  joined : domain = ['.'].intercalate parts

lemma Written.of_toAscii? {name domain : List Char} (h : toAscii? name = some domain) :
    ∃ labels parts, Written domain labels parts := by
  simp only [toAscii?, Option.bind_eq_bind, Option.bind_eq_some_iff] at h
  obtain ⟨mapped, -, h⟩ := h
  split at h
  · cases h
  · next hallowed =>
    obtain ⟨labels, hread, h⟩ := Option.bind_eq_some_iff.mp h
    split at h
    · next hvalid =>
      obtain ⟨parts, hwrite, h⟩ := Option.bind_eq_some_iff.mp h
      refine ⟨labels, parts, ?_, fun label hlabel => ?_, hvalid, hwrite, (Option.some.inj h).symm⟩
      · rintro rfl
        exact cut_ne_nil _ (List.forall₂_nil_right_iff.mp (mapM_eq_some_iff.mp hread))
      · obtain ⟨part, hpart, hlabel'⟩ := exists_of_mem_mapM hread hlabel
        refine .of_readLabel hlabel' (fun c hc => ?_) (List.all_eq_true.mp hvalid.1 label hlabel)
        obtain ⟨hmem, hdot⟩ := mem_of_mem_cut hpart hc
        refine ⟨?_, hdot⟩
        by_contra hforbidden
        exact hallowed (List.any_eq_true.mpr ⟨c, hmem, by simpa using hforbidden⟩)
    · cases h

variable {domain : List Char} {labels parts : List (List Char)}

lemma Written.plain_of_mem_part (h : Written domain labels parts) (hpart : part ∈ parts) {c : Char}
    (hc : c ∈ part) : Plain c ∧ c ≠ '.' := by
  obtain ⟨label, hlabel, hwrite⟩ := exists_of_mem_mapM h.writes hpart
  exact (h.proper label hlabel).plain_of_writeLabel hwrite hc

lemma Written.cut (h : Written domain labels parts) : cut '.' domain = parts := by
  rw [h.joined]
  refine cut_intercalate ?_ fun part hpart hdot => (h.plain_of_mem_part hpart hdot).2 rfl
  rintro rfl
  exact h.ne_nil (List.forall₂_nil_right_iff.mp (mapM_eq_some_iff.mp h.writes))

lemma Written.plain (h : Written domain labels parts) : ∀ c ∈ domain, Plain c := by
  intro c hc
  by_cases hdot : c = '.'
  · rw [hdot]
    exact ⟨by decide, by decide, by decide⟩
  · obtain ⟨part, hpart, hmem⟩ := (mem_intercalate (h.joined ▸ hc)).resolve_left hdot
    exact (h.plain_of_mem_part hpart hmem).1

/-- The form of a name in ASCII is its own form in ASCII, unless it can no longer be read back. -/
theorem toAscii?_of_toAscii? {name domain : List Char} (h : toAscii? name = some domain) :
    (∀ c ∈ domain, Plain c) ∧ (Fit domain → toAscii? domain = some domain) ∧
      (¬ Fit domain → toAscii? domain = none) := by
  obtain ⟨labels, parts, h⟩ := Written.of_toAscii? h
  have hplain := h.plain
  have hallowed : domain.any isForbidden = false :=
    List.any_eq_false.mpr fun c hc => by simp [(hplain c hc).allowed]
  have hagain : toAscii? domain = (parts.mapM readLabel).bind fun labels =>
      if labels.all validLabel ∧ (labels.any runsRightToLeft → labels.all directionClear) then
        (labels.mapM writeLabel).bind fun parts => some (['.'].intercalate parts)
      else none := by
    simp only [toAscii?, mapText_of_plain hplain, composed_of_plain hplain, hallowed, h.cut,
      Option.bind_eq_bind, Option.bind_some, Bool.false_eq_true, if_false]
  refine ⟨hplain, fun hfit => ?_, fun hfit => ?_⟩
  · have hread : parts.mapM readLabel = some labels := by
      refine mapM_of_mapM h.writes fun label hlabel part hpart hwrite => ?_
      exact (h.proper label hlabel).readLabel_of_writeLabel hwrite (hfit part (h.cut ▸ hpart))
    rw [hagain, hread, Option.bind_some, if_pos h.valid, h.writes, Option.bind_some, h.joined]
  · cases hread : parts.mapM readLabel with
    | none => rw [hagain, hread, Option.bind_none]
    | some labels' =>
      refine absurd (fun part hpart => ?_) hfit
      by_contra hlong
      obtain ⟨label, -, hlabel⟩ := exists_of_mapM hread (h.cut ▸ hpart)
      rw [readLabel_of_not_fitPart hlong] at hlabel
      cases hlabel

/-! ### Names without labels to read back -/

lemma joinersAllowed_of_plain (h : ∀ c ∈ cs, Plain c) (before : List Char) :
    joinersAllowed before cs = true := by
  induction cs generalizing before with
  | nil => rfl
  | cons c cs ih =>
    have hascii := (h c List.mem_cons_self).ascii
    have hjoiner : ¬ (c = joiner ∨ c = nonJoiner) := by
      rintro (rfl | rfl) <;> exact absurd hascii (by decide)
    rw [joinersAllowed, if_neg hjoiner, Bool.true_and]
    exact ih (fun d hd => h d (List.mem_cons_of_mem _ hd)) _

lemma validLabel_of_plain (h : ∀ c ∈ cs, Plain c) : validLabel cs = true := by
  have hstable : cs.all isStable = true := by
    refine List.all_eq_true.mpr fun c hc => ?_
    rw [isStable, mapChar, if_pos (h c hc).ascii, (h c hc).small]
    exact beq_self_eq_true _
  have hmark : ∀ c ∈ cs, isMark c = false := by
    intro c hc
    have := (h c hc).ascii
    simp only [isMark, Bool.and_eq_false_iff, decide_eq_false_iff_not]
    omega
  simp only [validLabel, composed_of_plain h, hstable, joinersAllowed_of_plain h,
    beq_self_eq_true, Bool.true_and, Bool.and_true]
  split
  · rfl
  · rw [hmark _ List.mem_cons_self, Bool.not_false]

/-- A name of such characters is its own form in ASCII if none of its parts stands for a label. -/
lemma toAscii?_of_plain (h : ∀ c ∈ cs, Plain c)
    (hmark : ∀ part ∈ cut '.' cs, asciiMark.isPrefixOf part = false) : toAscii? cs = some cs := by
  have hpart : ∀ part ∈ cut '.' cs, ∀ c ∈ part, Plain c :=
    fun part hpart c hc => h c (mem_of_mem_cut hpart hc).1
  have hallowed : cs.any isForbidden = false :=
    List.any_eq_false.mpr fun c hc => by simp [(h c hc).allowed]
  have hread : (cut '.' cs).mapM readLabel = some (cut '.' cs) := by
    rw [mapM_eq_some_iff, List.forall₂_same]
    exact fun part hpart => by simp [readLabel, hmark part hpart]
  have hwrite : (cut '.' cs).mapM writeLabel = some (cut '.' cs) := by
    rw [mapM_eq_some_iff, List.forall₂_same]
    exact fun part hmem => by simp [writeLabel, isAscii_of_plain (hpart part hmem)]
  have hvalid : (cut '.' cs).all validLabel = true :=
    List.all_eq_true.mpr fun part hmem => validLabel_of_plain (hpart part hmem)
  have hright : (cut '.' cs).any runsRightToLeft = false := by
    refine List.any_eq_false.mpr fun part hmem => ?_
    rw [runsRightToLeft, Bool.not_eq_true, List.any_eq_false]
    intro c hc
    have := (hpart part hmem c hc).ascii
    simp
    omega
  simp only [toAscii?, mapText_of_plain h, composed_of_plain h, hallowed, hread, hwrite, hvalid,
    hright, intercalate_cut, Option.bind_eq_bind, Option.bind_some, Bool.false_eq_true, if_false,
    false_implies, and_self, if_true]

end TrafficFeed.Idn
