import TrafficFeed.Proofs.Text.Cut
import TrafficFeed.Proofs.Url.Percent
import TrafficFeed.Url.Path

/-!
# Paths that are read already

The segments of a path that has been read hold nothing that has to be encoded, no slash, and none
of them is a point or two. Such segments are read as they are, so the path is read as itself. Only
within the scheme of files may its first segment be the letter of a drive, and then it takes the
host away.
-/

namespace TrafficFeed.Url

open TrafficFeed.Text

/-! ### Segments -/

lemma segments_eq (kind : Kind) (cs : List Char) :
    segments kind cs = cutWhere (isSlash kind) cs := by
  induction cs with
  | nil => rfl
  | cons c cs ih =>
    cases hc : isSlash kind c with
    | true => simp [segments, cutWhere, hc, ih]
    | false => cases hcs : cutWhere (isSlash kind) cs <;> simp [segments, cutWhere, hc, ih, hcs]

/-- What a segment that has been read is made of. -/
structure CleanSegment (kind : Kind) (s : List Char) : Prop where
  encoded : ∀ c ∈ s, pathSet c = false ∧ c.toNat < 0x80
  whole : ∀ c ∈ s, isSlash kind c = false

/-- A segment that is read as itself. -/
structure Kept (kind : Kind) (s : List Char) : Prop extends CleanSegment kind s where
  notDot : isDot s = false
  notDoubleDot : isDoubleDot s = false

lemma not_isBreak_of_visible {c : Char} (h : 0x20 < c.toNat) : isBreak c = false := by
  refine Bool.eq_false_iff.mpr fun hbreak => ?_
  simp only [isBreak, Bool.or_eq_true, beq_iff_eq] at hbreak
  rcases hbreak with (rfl | rfl) | rfl <;> exact absurd h (by decide)

lemma not_isBreak_of_pathSet {c : Char} (h : pathSet c = false) : isBreak c = false :=
  not_isBreak_of_visible (visible_of_pathSet h).1

lemma unbroken_of_forall {cs : List Char} (h : ∀ c ∈ cs, isBreak c = false) : unbroken cs = cs :=
  List.filter_eq_self.mpr fun c hc => by simp [h c hc]

lemma CleanSegment.unbroken {kind : Kind} {s : List Char} (h : CleanSegment kind s) :
    unbroken s = s :=
  unbroken_of_forall fun c hc => not_isBreak_of_pathSet (h.encoded c hc).1

lemma isSlash_of_isCode (kind : Kind) {c : Char} (h : IsCode c) : isSlash kind c = false := by
  cases kind <;> exact isCode_cases (P := fun c => isSlash _ c = false) (by decide) (by decide) c h

lemma CleanSegment.encode {kind : Kind} {s : List Char} (h : ∀ c ∈ s, isSlash kind c = false) :
    CleanSegment kind (encode pathSet (Url.unbroken s)) where
  encoded _ hc := clean_of_mem_encode spares_pathSet hc
  whole c hc := by
    rcases mem_encode hc with ⟨hmem, -⟩ | hcode
    · exact h c (List.mem_of_mem_filter hmem)
    · exact isSlash_of_isCode kind hcode

/-! ### Points -/

/-- A point at the front of an encoded segment was there before. -/
lemma afterDot?_of_encode {s t : List Char} (h : afterDot? (encode pathSet s) = some t) :
    ∃ s', afterDot? s = some s' ∧ t = encode pathSet s' := by
  have hescaped : ∀ e, e = 'e' ∨ e = 'E' → encode pathSet s = '%' :: '2' :: e :: t →
      ∃ s', afterDot? s = some s' ∧ t = encode pathSet s' := by
    intro e he heq
    cases s with
    | nil => cases heq
    | cons c cs =>
      rw [encode_cons] at heq
      rcases encodeChar_cases pathSet c with hc | ⟨b, rest, hc, hset⟩
      · rw [hc, List.singleton_append, List.cons.injEq] at heq
        obtain ⟨rfl, heq⟩ := heq
        obtain ⟨cs, rfl, hrest⟩ := eq_cons_of_encode heq (by decide)
        obtain ⟨cs, rfl, ht⟩ :=
          eq_cons_of_encode hrest.symm (by rcases he with rfl | rfl <;> decide)
        rcases he with rfl | rfl <;> exact ⟨cs, rfl, ht⟩
      · -- The octet is that of a point, which does not have to be encoded.
        rw [hc, List.append_assoc, encodeOctet] at heq
        simp only [List.cons_append, List.cons.injEq] at heq
        obtain ⟨-, hhigh, hlow, -⟩ := heq
        have hb := b.toNat_lt
        have hdigit : ∀ n < 16, (hexUpper n = '2' → n = 2) ∧
            (hexUpper n = 'e' ∨ hexUpper n = 'E' → n = 14) := by decide
        have hfirst := (hdigit _ (by omega)).1 hhigh
        have hsecond := (hdigit (b.toNat % 16) (by omega)).2 (by rw [hlow]; exact he)
        have hpoint : b.toNat = 0x2E := by omega
        exact absurd (hset (by omega)) (by rw [hpoint]; decide)
  unfold afterDot? at h
  split at h
  · next cs heq =>
    obtain rfl := Option.some.inj h
    obtain ⟨s', rfl, hs'⟩ := eq_cons_of_encode heq (by decide)
    exact ⟨s', rfl, hs'⟩
  · next cs heq =>
    obtain rfl := Option.some.inj h
    exact hescaped _ (.inl rfl) heq
  · next cs heq =>
    obtain rfl := Option.some.inj h
    exact hescaped _ (.inr rfl) heq
  · cases h

lemma isDot_of_encode {s : List Char} (h : isDot (encode pathSet s) = true) : isDot s = true := by
  rw [isDot, beq_iff_eq] at h ⊢
  obtain ⟨s', hs', hnil⟩ := afterDot?_of_encode h
  rw [hs', encode_eq_nil.mp hnil.symm]

lemma isDoubleDot_of_encode {s : List Char} (h : isDoubleDot (encode pathSet s) = true) :
    isDoubleDot s = true := by
  rw [isDoubleDot, beq_iff_eq] at h ⊢
  obtain ⟨t, ht, hdot⟩ := Option.bind_eq_some_iff.mp h
  obtain ⟨s', hs', rfl⟩ := afterDot?_of_encode ht
  obtain ⟨s'', hs'', hnil⟩ := afterDot?_of_encode hdot
  rw [hs', Option.bind_some, hs'', encode_eq_nil.mp hnil.symm]

/-! ### What is read -/

/-- Whether the segment read first is the letter of a drive. -/
def Driven (read : List (List Char)) : Prop :=
  ∃ a, isLetter a = true ∧ read.getLast? = some [a, ':']

/-- What is known of the segments read so far: each is read as itself, unless the first is the
letter of a drive. -/
structure Tidy (kind : Kind) (read : List (List Char)) : Prop where
  clean : ∀ s ∈ read, CleanSegment kind s
  kept : (∀ s ∈ read, Kept kind s) ∨ kind = .file ∧ Driven read

variable {kind : Kind} {read : List (List Char)} {s : List Char}

lemma CleanSegment.nil : CleanSegment kind [] :=
  ⟨fun _ hc => absurd hc List.not_mem_nil, fun _ hc => absurd hc List.not_mem_nil⟩

lemma Kept.nil : Kept kind [] := ⟨.nil, rfl, rfl⟩

lemma Kept.encode (hwhole : ∀ c ∈ s, isSlash kind c = false) (hdot : isDot (unbroken s) = false)
    (hdots : isDoubleDot (unbroken s) = false) : Kept kind (encode pathSet (unbroken s)) where
  toCleanSegment := .encode hwhole
  notDot := Bool.eq_false_iff.mpr fun h => by simp [isDot_of_encode h] at hdot
  notDoubleDot := Bool.eq_false_iff.mpr fun h => by simp [isDoubleDot_of_encode h] at hdots

lemma Tidy.nil : Tidy kind [] :=
  ⟨fun _ hs => absurd hs List.not_mem_nil, .inl fun _ hs => absurd hs List.not_mem_nil⟩

lemma Driven.cons (h : Driven read) (s : List Char) : Driven (s :: read) := by
  obtain ⟨a, ha, hlast⟩ := h
  exact ⟨a, ha, by rw [List.getLast?_cons, hlast]; rfl⟩

lemma Tidy.cons (h : Tidy kind read) (hs : Kept kind s) : Tidy kind (s :: read) where
  clean := List.forall_mem_cons.mpr ⟨hs.toCleanSegment, h.clean⟩
  kept := h.kept.imp (fun hkept => List.forall_mem_cons.mpr ⟨hs, hkept⟩)
    (And.imp_right fun hdriven => hdriven.cons s)

/-- The letter of a drive is not taken away. -/
lemma Driven.dropSegment (h : Driven read) : Driven (dropSegment read) := by
  obtain ⟨a, ha, hlast⟩ := h
  cases read with
  | nil => cases hlast
  | cons s ss =>
    rw [Url.dropSegment]
    split
    · exact ⟨a, ha, hlast⟩
    · next hdrive =>
      cases ss with
      | nil =>
        obtain rfl := Option.some.inj hlast
        exact absurd (by simp [startsWithDrive, ha]) hdrive
      | cons t ts => exact ⟨a, ha, by rwa [List.getLast?_cons_cons] at hlast⟩

lemma Tidy.dropSegment (h : Tidy kind read) : Tidy kind (dropSegment read) := by
  have hsub : ∀ s ∈ Url.dropSegment read, s ∈ read := by
    intro s hs
    cases read with
    | nil => exact hs
    | cons t ts =>
      rw [Url.dropSegment] at hs
      split at hs
      · exact hs
      · exact List.mem_cons_of_mem _ hs
  exact ⟨fun s hs => h.clean s (hsub s hs),
    h.kept.imp (fun hkept s hs => hkept s (hsub s hs)) (And.imp_right Driven.dropSegment)⟩

lemma cleanSegment_drive {a : Char} (ha : isLetter a = true) : CleanSegment .file [a, ':'] := by
  have hascii : a.toNat < 0x80 := by
    simp only [isLetter, Bool.or_eq_true, Bool.and_eq_true, decide_eq_true_eq] at ha
    rcases ha with ha | ha
    · exact Nat.lt_of_le_of_lt (show a.toNat ≤ 'z'.toNat from ha.2) (by decide)
    · exact Nat.lt_of_le_of_lt (show a.toNat ≤ 'Z'.toNat from ha.2) (by decide)
  have hclean : pathSet a = false ∧ isSlash .file a = false :=
    forall_below (P := fun a => isLetter a = true → pathSet a = false ∧ isSlash .file a = false)
      (by decide) hascii ha
  refine ⟨fun c hc => ?_, fun c hc => ?_⟩ <;>
    rcases List.mem_pair.mp hc with rfl | rfl
  · exact ⟨hclean.1, hascii⟩
  · decide
  · exact hclean.2
  · decide

/-- What a segment is split into that goes on behind the letter of a drive. -/
lemma eq_of_splitDrive? {drive rest : List Char} (h : splitDrive? s = some (drive, rest)) :
    ∃ a cs, isLetter a = true ∧ drive = [a, ':'] ∧ rest = unbroken cs ∧ ∀ c ∈ cs, c ∈ s := by
  unfold splitDrive? at h
  split at h
  · next a cs hs =>
    split at h
    · next c rest' hcs =>
      split at h
      · next hdrive =>
        obtain ⟨rfl, rfl⟩ := Prod.mk.inj (Option.some.inj h)
        simp only [Bool.and_eq_true] at hdrive
        refine ⟨a, rest', hdrive.1.1, rfl, rfl, fun d hd => ?_⟩
        refine (List.dropWhile_sublist isBreak).subset (hs ▸ List.mem_cons_of_mem _ ?_)
        refine (List.dropWhile_sublist isBreak).subset (hcs ▸ ?_)
        exact List.mem_cons_of_mem _ (List.mem_cons_of_mem _ hd)
      · cases h
    · cases h
  · cases h

lemma Tidy.firstOfFile (st : PathState) (hs : ∀ c ∈ s, isSlash .file c = false)
    (hdot : isDot (unbroken s) = false) (hdots : isDoubleDot (unbroken s) = false) :
    Tidy .file (firstOfFile st s).read ∧ (firstOfFile st s).read ≠ [] := by
  have hkept : Tidy .file [encode pathSet (unbroken s)] := Tidy.nil.cons (.encode hs hdot hdots)
  unfold Url.firstOfFile
  split
  · next drive rest _ hsplit =>
    obtain ⟨a, cs, ha, rfl, rfl, hsub⟩ := eq_of_splitDrive? hsplit
    refine ⟨⟨?_, .inr ⟨rfl, a, ha, rfl⟩⟩, List.cons_ne_nil _ _⟩
    refine List.forall_mem_cons.mpr ⟨.encode fun c hc => hs c (hsub c hc), ?_⟩
    exact List.forall_mem_singleton.mpr (cleanSegment_drive ha)
  · next a b _ hunbroken =>
    split
    · next hdrive =>
      have ha : isLetter a = true := by
        simp only [isDrive, Bool.and_eq_true] at hdrive
        exact hdrive.1
      refine ⟨⟨?_, .inr ⟨rfl, a, ha, rfl⟩⟩, List.cons_ne_nil _ _⟩
      exact List.forall_mem_singleton.mpr (cleanSegment_drive ha)
    · rw [← hunbroken]
      exact ⟨hkept, List.cons_ne_nil _ _⟩
  · exact ⟨hkept, List.cons_ne_nil _ _⟩

lemma Tidy.stepSegment {st : PathState} (h : Tidy kind st.read)
    (hs : ∀ c ∈ s, isSlash kind c = false) (isLast : Bool) :
    Tidy kind (stepSegment kind st s isLast).read ∧
      (isLast = true → (stepSegment kind st s isLast).read ≠ []) := by
  have hclose : ∀ read, Tidy kind read →
      Tidy kind (if isLast then [] :: read else read) ∧
        (isLast = true → (if isLast then [] :: read else read) ≠ []) := by
    intro read hread
    cases isLast with
    | true => exact ⟨hread.cons .nil, fun _ => List.cons_ne_nil _ _⟩
    | false => exact ⟨hread, fun hlast => by cases hlast⟩
  unfold Url.stepSegment
  dsimp only
  split
  · exact hclose _ h.dropSegment
  · next hdots =>
    rw [Bool.not_eq_true] at hdots
    split
    · exact hclose _ h
    · next hdot =>
      rw [Bool.not_eq_true] at hdot
      split
      · obtain ⟨htidy, hne⟩ := Tidy.firstOfFile st hs hdot hdots
        exact ⟨htidy, fun _ => hne⟩
      · exact ⟨h.cons (.encode hs hdot hdots), fun _ => List.cons_ne_nil _ _⟩

lemma Tidy.runSegments (st : PathState) (h : Tidy kind st.read) {ss : List (List Char)}
    (hss : ∀ s ∈ ss, ∀ c ∈ s, isSlash kind c = false) (hne : ss ≠ []) :
    Tidy kind (runSegments kind st ss).read ∧ (runSegments kind st ss).read ≠ [] := by
  fun_induction Url.runSegments kind st ss with
  | case1 => exact absurd rfl hne
  | case2 st s =>
    obtain ⟨htidy, hlast⟩ := h.stepSegment (hss s List.mem_cons_self) true
    exact ⟨htidy, hlast rfl⟩
  | case3 st s ss hss' ih =>
    refine ih (h.stepSegment (hss s List.mem_cons_self) false).1
      (fun t ht => hss t (List.mem_cons_of_mem _ ht)) ?_
    rintro rfl
    exact hss' rfl

/-- The text of a path behind its first slash, once the path has been read: its segments, of which
each is read as itself, unless the first is the letter of a drive. -/
structure Body (kind : Kind) (body : List Char) (segs : List (List Char)) : Prop where
  joined : body = ['/'].intercalate segs
  ne_nil : segs ≠ []
  clean : ∀ s ∈ segs, CleanSegment kind s
  kept : (∀ s ∈ segs, Kept kind s) ∨
    kind = .file ∧ ∃ a, isLetter a = true ∧ segs.head? = some [a, ':']
  front : kind = .file → body.head? ≠ some '/'

/-- Slashes at the front are empty segments, which are read as themselves. -/
lemma exists_dropWhile_intercalate {segs : List (List Char)} (hne : segs ≠ [])
    (hkept : ∀ s ∈ segs, Kept .file s) :
    ∃ segs', (['/'].intercalate segs).dropWhile (· == '/') = ['/'].intercalate segs' ∧
      segs' ≠ [] ∧ ∀ s ∈ segs', Kept .file s := by
  induction segs with
  | nil => exact absurd rfl hne
  | cons s ss ih =>
    cases s with
    | nil =>
      cases ss with
      | nil => exact ⟨[[]], rfl, List.cons_ne_nil _ _, hkept⟩
      | cons t ts =>
        obtain ⟨segs', heq, hrest⟩ :=
          ih (List.cons_ne_nil _ _) fun s hs => hkept s (List.mem_cons_of_mem _ hs)
        refine ⟨segs', ?_, hrest⟩
        rw [List.intercalate_cons_cons, ← heq]
        rfl
    | cons c cs =>
      have hc : c ≠ '/' := by
        rintro rfl
        have := (hkept _ List.mem_cons_self).whole '/' List.mem_cons_self
        exact absurd this (by decide)
      refine ⟨(c :: cs) :: ss, ?_, List.cons_ne_nil _ _, hkept⟩
      cases ss <;> simp [List.intercalate_cons_cons, hc]

lemma Body.encoded {body : List Char} {segs : List (List Char)} (h : Body kind body segs) :
    ∀ c ∈ body, pathSet c = false ∧ c.toNat < 0x80 := by
  intro c hc
  rcases mem_intercalate (h.joined ▸ hc) with rfl | ⟨s, hs, hc⟩
  · decide
  · exact (h.clean s hs).encoded c hc

lemma exists_body (kind : Kind) (cs : List Char) :
    ∃ body segs, (readPath kind cs).1 = '/' :: body ∧ Body kind body segs := by
  have hss : ∀ s ∈ segments kind cs, ∀ c ∈ s, isSlash kind c = false := by
    intro s hs c hc
    rw [segments_eq] at hs
    exact (mem_of_mem_cutWhere hs hc).2
  have hnil : segments kind cs ≠ [] := by
    rw [segments_eq]
    exact cutWhere_ne_nil _ _
  obtain ⟨htidy, hne⟩ := Tidy.runSegments ⟨[], true⟩ Tidy.nil hss hnil
  simp only [readPath]
  generalize (runSegments kind ⟨[], true⟩ (segments kind cs)).read = read at htidy hne
  have hne : read.reverse ≠ [] := by simpa using hne
  have hmem : ∀ {P : List Char → Prop}, (∀ s ∈ read, P s) → ∀ s ∈ read.reverse, P s :=
    fun h s hs => h s (List.mem_reverse.mp hs)
  obtain hkept | ⟨rfl, a, ha, hlast⟩ := htidy.kept
  · by_cases hfile : kind = .file
    · subst hfile
      obtain ⟨segs, heq, hsegs, hkept⟩ := exists_dropWhile_intercalate hne (hmem hkept)
      refine ⟨_, segs, rfl, heq, hsegs, fun s hs => (hkept s hs).toCleanSegment, .inl hkept, ?_⟩
      intro _ hhead
      have := List.head?_dropWhile_not (· == '/') (['/'].intercalate read.reverse)
      rw [if_pos rfl] at hhead
      simp [hhead] at this
    · rw [if_neg hfile]
      exact ⟨_, _, rfl, rfl, hne, hmem htidy.clean, .inl (hmem hkept), fun h => absurd h hfile⟩
  · rw [← List.head?_reverse] at hlast
    obtain ⟨segs, hsegs⟩ : ∃ segs, read.reverse = [a, ':'] :: segs := by
      cases hread : read.reverse with
      | nil => simp [hread] at hlast
      | cons s ss =>
        rw [hread] at hlast
        exact ⟨ss, by rw [Option.some.inj hlast]⟩
    have hslash : a ≠ '/' := by
      rintro rfl
      exact absurd ha (by decide)
    have hfront : ∃ rest, ['/'].intercalate read.reverse = a :: rest := by
      rw [hsegs]
      cases segs with
      | nil => exact ⟨_, rfl⟩
      | cons s ss => exact ⟨_, rfl⟩
    obtain ⟨rest, hrest⟩ := hfront
    have hbody : (['/'].intercalate read.reverse).dropWhile (· == '/') =
        ['/'].intercalate read.reverse := by
      rw [hrest]
      simp [hslash]
    rw [if_pos rfl, hbody]
    refine ⟨_, _, rfl, rfl, hne, hmem htidy.clean, .inr ⟨rfl, a, ha, hlast⟩, fun _ => ?_⟩
    rw [hrest]
    simpa using hslash

/-! ### What is read again -/

lemma dropWhile_of_not_isBreak {cs : List Char} (h : ∀ c ∈ cs, isBreak c = false) :
    cs.dropWhile isBreak = cs := by
  cases cs with
  | nil => rfl
  | cons c cs => simp [h c List.mem_cons_self]

lemma splitDrive?_of_not_isBreak (h : ∀ c ∈ s, isBreak c = false) : splitDrive? s = none := by
  unfold splitDrive?
  rw [dropWhile_of_not_isBreak h]
  split
  · next a cs =>
    rw [dropWhile_of_not_isBreak fun c hc => h c (List.mem_cons_of_mem _ hc)]
    split
    · next c rest => simp [h c (by simp)]
    · rfl
  · rfl

lemma firstOfFile_of_kept (st : PathState) (h : Kept .file s) (hdrive : isDrive s = false) :
    firstOfFile st s = ⟨[s], st.keepsHost⟩ := by
  have hsame : encode pathSet s = s := encode_of_clean h.encoded
  have hsplit : splitDrive? s = none :=
    splitDrive?_of_not_isBreak fun c hc => not_isBreak_of_pathSet (h.encoded c hc).1
  rw [firstOfFile, hsplit, h.toCleanSegment.unbroken]
  split
  · next heq => cases heq
  · next a b => simp [hdrive, hsame]
  · rw [hsame]

/-- A segment that is read as itself. Only the first of a path within the scheme of files may be the
letter of a drive. -/
lemma stepSegment_of_kept (st : PathState) (h : Kept kind s)
    (hfirst : kind = .file → st.read = [] → isDrive s = false) (isLast : Bool) :
    stepSegment kind st s isLast = ⟨s :: st.read, st.keepsHost⟩ := by
  have hsame : encode pathSet s = s := encode_of_clean h.encoded
  have hunbroken := h.toCleanSegment.unbroken
  simp only [stepSegment, hunbroken, h.notDoubleDot, h.notDot, Bool.false_eq_true, if_false, hsame]
  split
  · next hread =>
    rw [firstOfFile_of_kept st h (hfirst rfl hread), hread]
  · rfl

lemma runSegments_of_kept (st : PathState) {ss : List (List Char)} (h : ∀ s ∈ ss, Kept kind s)
    (hfirst : kind = .file → st.read = [] → ∀ s ∈ ss.head?, isDrive s = false) :
    runSegments kind st ss = ⟨ss.reverse ++ st.read, st.keepsHost⟩ := by
  fun_induction runSegments kind st ss with
  | case1 => rfl
  | case2 st s =>
    exact stepSegment_of_kept st (h s List.mem_cons_self)
      (fun hfile hread => hfirst hfile hread s rfl) true
  | case3 st s ss hss' ih =>
    have hstep := stepSegment_of_kept st (h s List.mem_cons_self)
      (fun hfile hread => hfirst hfile hread s rfl) false
    rw [hstep] at ih ⊢
    rw [ih (fun t ht => h t (List.mem_cons_of_mem _ ht)) (fun _ hread => by cases hread)]
    simp

/-- A path that has been read is read as itself, and leaves the host in its place, unless its first
segment is the letter of a drive. -/
lemma Body.readPath {body : List Char} {segs : List (List Char)} (h : Body kind body segs)
    (hfirst : kind = .file → ∀ s ∈ segs.head?, isDrive s = false) :
    readPath kind body = ('/' :: body, true) := by
  have hkept : ∀ s ∈ segs, Kept kind s := by
    obtain hkept | ⟨hfile, a, ha, hhead⟩ := h.kept
    · exact hkept
    · have := hfirst hfile [a, ':'] hhead
      simp [isDrive, ha] at this
  have hsegments : segments kind body = segs := by
    rw [h.joined, segments_eq]
    exact cutWhere_intercalate h.ne_nil (by simp [isSlash]) fun s hs => (h.clean s hs).whole
  rw [Url.readPath, hsegments, runSegments_of_kept _ hkept fun hfile _ => hfirst hfile]
  dsimp only
  rw [List.append_nil, List.reverse_reverse, ← h.joined]
  split
  · next hfile =>
    have hfront := h.front hfile
    cases body with
    | nil => rfl
    | cons c cs =>
      have hc : c ≠ '/' := fun heq => hfront (congrArg some heq)
      simp [hc]
  · rfl

/-- What stands before the second slash of a path is its first segment. -/
lemma Body.head? {body : List Char} {segs : List (List Char)} (h : Body kind body segs) :
    segs.head? = some (body.takeWhile (· != '/')) := by
  obtain ⟨s, ss, rfl⟩ := List.exists_cons_of_ne_nil h.ne_nil
  have hs : ∀ c ∈ s, (c != '/') = true := by
    intro c hc
    have := (h.clean s List.mem_cons_self).whole c hc
    simp only [isSlash, Bool.or_eq_false_iff] at this
    simpa using this.1
  rw [h.joined]
  cases ss with
  | nil =>
    have htake : (s ++ []).takeWhile (· != '/') = s ++ [] := List.takeWhile_append_of_pos hs
    rw [List.append_nil] at htake
    rw [List.intercalate_singleton, htake]
    rfl
  | cons t ts =>
    rw [List.intercalate_cons_cons, List.append_assoc, List.takeWhile_append_of_pos hs]
    simp

lemma keepsHost_of_stepSegment {st : PathState} {isLast : Bool}
    (h : (stepSegment kind st s isLast).keepsHost = true) : st.keepsHost = true := by
  unfold stepSegment firstOfFile at h
  dsimp only at h
  split at h
  · exact h
  · split at h
    · exact h
    · split at h
      · split at h
        · exact h
        · split at h
          · cases h
          · exact h
        · exact h
      · exact h

lemma keepsHost_of_runSegments {st : PathState} {ss : List (List Char)}
    (h : (runSegments kind st ss).keepsHost = true) : st.keepsHost = true := by
  fun_induction runSegments kind st ss with
  | case1 => exact h
  | case2 st s => exact keepsHost_of_stepSegment h
  | case3 st s ss _ ih => exact keepsHost_of_stepSegment (ih h)

/-- The letter of a drive at the front of a path takes the host away. -/
lemma Body.not_keepsHost {body : List Char} {segs : List (List Char)} (h : Body .file body segs)
    {s : List Char} (hhead : segs.head? = some s) (hdrive : isDrive s = true) :
    (Url.readPath .file body).2 = false := by
  obtain ⟨t, ss, rfl⟩ := List.exists_cons_of_ne_nil h.ne_nil
  obtain rfl := Option.some.inj hhead
  have hclean := h.clean t List.mem_cons_self
  have hsegments : segments .file body = t :: ss := by
    rw [h.joined, segments_eq]
    exact cutWhere_intercalate h.ne_nil (by decide) fun s hs => (h.clean s hs).whole
  have hstep : ∀ isLast, (stepSegment .file ⟨[], true⟩ t isLast).keepsHost = false := by
    intro isLast
    obtain ⟨a, b, rfl, ha⟩ : ∃ a b, t = [a, b] ∧ isLetter a = true := by
      unfold isDrive at hdrive
      split at hdrive
      · next a b =>
        rw [Bool.and_eq_true] at hdrive
        exact ⟨a, b, rfl, hdrive.1⟩
      · cases hdrive
    have hnone : afterDot? [a, b] = none := by
      unfold afterDot?
      split
      · next heq =>
        rw [(List.cons.inj heq).1] at ha
        exact absurd ha (by decide)
      · next heq => simp at heq
      · next heq => simp at heq
      · rfl
    have hsplit : splitDrive? [a, b] = none :=
      splitDrive?_of_not_isBreak fun c hc => not_isBreak_of_pathSet (hclean.encoded c hc).1
    simp [stepSegment, firstOfFile, hclean.unbroken, isDot, isDoubleDot, hnone, hsplit, hdrive]
  rw [Url.readPath, hsegments]
  refine Bool.eq_false_iff.mpr fun hkeeps => ?_
  cases ss with
  | nil => exact absurd hkeeps (by simp [runSegments, hstep])
  | cons u us =>
    have hfirst : (stepSegment .file ⟨[], true⟩ t false).keepsHost = true :=
      keepsHost_of_runSegments hkeeps
    rw [hstep] at hfirst
    cases hfirst

end TrafficFeed.Url
