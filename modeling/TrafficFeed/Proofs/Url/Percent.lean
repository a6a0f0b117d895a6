import Mathlib.Tactic.IntervalCases
import Mathlib.Tactic.Lemma
import TrafficFeed.Url.Percent

/-!
# Texts that are encoded already

An encoded text holds nothing that has to be encoded, so it is its own encoded form. A text without
percent signs is its own decoded form.
-/

namespace TrafficFeed.Url

open TrafficFeed.Text

variable {set : Char → Bool} {cs : List Char} {c : Char}

/-! ### Characters -/

/-- What holds of the first characters is checked one by one. -/
lemma forall_below {P : Char → Prop} {bound : Nat} (h : ∀ n < bound, P (Char.ofNat n)) {c : Char}
    (hc : c.toNat < bound) : P c := by
  have hchar := h c.toNat hc
  rwa [Char.ofNat_toNat] at hchar

lemma notMem_of_all {p : Char → Bool} (h : cs.all p = true) (hc : p c = false) : c ∉ cs := by
  intro hmem
  rw [List.all_eq_true.mp h c hmem] at hc
  cases hc

lemma visible_of_controlSet (hcontrol : controlSet c = false) (hblank : c ≠ ' ') :
    0x20 < c.toNat := by
  have hne : c.toNat ≠ 0x20 := fun heq => hblank (Char.toNat_inj.mp heq)
  simp only [controlSet, Bool.or_eq_false_iff, decide_eq_false_iff_not] at hcontrol
  omega

lemma visible_of_pathSet (h : pathSet c = false) : 0x20 < c.toNat ∧ c ≠ '#' ∧ c ≠ '?' := by
  simp only [pathSet, fragmentSet, Bool.or_eq_false_iff, beq_eq_false_iff_ne] at h
  exact ⟨visible_of_controlSet h.1.1.1.1.1.1.1.1.1 h.1.1.1.1.1.1.1.1.2, h.1.1.1.2, h.1.1.2⟩

lemma visible_of_querySet (h : querySet c = false) : 0x20 < c.toNat ∧ c ≠ '#' := by
  simp only [querySet, Bool.or_eq_false_iff, beq_eq_false_iff_ne] at h
  exact ⟨visible_of_controlSet h.1.1.1.1.1 h.1.1.1.1.2, h.1.1.2⟩

/-! ### Encoding -/

/-- A character of an encoded octet: the percent sign or a digit. -/
def IsCode (c : Char) : Prop := c = '%' ∨ ∃ n < 16, c = hexUpper n

lemma isCode_of_mem_encodeOctet {b : UInt8} (h : c ∈ encodeOctet b) : IsCode c := by
  have hb := b.toNat_lt
  simp only [encodeOctet, List.mem_cons, List.not_mem_nil, or_false] at h
  rcases h with rfl | rfl | rfl
  · exact .inl rfl
  · exact .inr ⟨_, by omega, rfl⟩
  · exact .inr ⟨_, by omega, rfl⟩

/-- A set that the characters of encoded octets are not in, so that they stay as they are. -/
def Spares (set : Char → Bool) : Prop := ∀ c, IsCode c → set c = false

lemma isCode_cases {P : Char → Prop} (hpercent : P '%') (hdigit : ∀ n < 16, P (hexUpper n)) :
    ∀ c, IsCode c → P c := by
  rintro c (rfl | ⟨n, hn, rfl⟩)
  · exact hpercent
  · exact hdigit n hn

lemma IsCode.ascii (h : IsCode c) : c.toNat < 0x80 :=
  isCode_cases (P := fun c => c.toNat < 0x80) (by decide) (by decide) c h

lemma spares_controlSet : Spares controlSet := isCode_cases (by decide) (by decide)

lemma spares_querySet : Spares querySet := isCode_cases (by decide) (by decide)

lemma spares_specialQuerySet : Spares specialQuerySet := isCode_cases (by decide) (by decide)

lemma spares_pathSet : Spares pathSet := isCode_cases (by decide) (by decide)

lemma encodeChar_of_clean (hset : set c = false) (hc : c.toNat < 0x80) :
    encodeChar set c = [c] := by
  rw [encodeChar, if_neg]
  simp only [hset, Bool.false_eq_true, false_or]
  omega

lemma encode_of_clean (h : ∀ c ∈ cs, set c = false ∧ c.toNat < 0x80) : encode set cs = cs := by
  induction cs with
  | nil => rfl
  | cons c cs ih =>
    obtain ⟨hset, hc⟩ := h c List.mem_cons_self
    have hrest := ih fun d hd => h d (List.mem_cons_of_mem _ hd)
    rw [encode] at hrest ⊢
    rw [List.flatMap_cons, encodeChar_of_clean hset hc, hrest, List.singleton_append]

/-- A character of an encoded text is one of the text that did not have to be encoded, or one of an
encoded octet. -/
lemma mem_encode (h : c ∈ encode set cs) :
    c ∈ cs ∧ set c = false ∧ c.toNat < 0x80 ∨ IsCode c := by
  obtain ⟨d, hd, hc⟩ := List.mem_flatMap.mp h
  unfold encodeChar at hc
  split at hc
  · obtain ⟨b, -, hb⟩ := List.mem_flatMap.mp hc
    exact .inr (isCode_of_mem_encodeOctet hb)
  · next hclean =>
    obtain rfl := List.mem_singleton.mp hc
    rw [not_or, Bool.not_eq_true, Nat.not_le] at hclean
    exact .inl ⟨hd, hclean⟩

lemma clean_of_mem_encode (hset : Spares set) (h : c ∈ encode set cs) :
    set c = false ∧ c.toNat < 0x80 := by
  rcases mem_encode h with hclean | hcode
  · exact hclean.2
  · exact ⟨hset c hcode, hcode.ascii⟩

lemma encode_encode (hset : Spares set) (cs : List Char) :
    encode set (encode set cs) = encode set cs :=
  encode_of_clean fun _ h => clean_of_mem_encode hset h

lemma encodeChar_ne_nil (set : Char → Bool) (c : Char) : encodeChar set c ≠ [] := by
  unfold encodeChar
  split
  · obtain ⟨b, bs, hbytes⟩ := List.exists_cons_of_length_pos
      (Nat.lt_of_lt_of_eq c.utf8Size_pos (String.length_utf8EncodeChar c).symm)
    rw [hbytes]
    exact List.cons_ne_nil _ _
  · exact List.cons_ne_nil _ _

lemma encode_eq_nil : encode set cs = [] ↔ cs = [] := by
  refine ⟨fun h => ?_, fun h => by rw [h]; rfl⟩
  cases cs with
  | nil => rfl
  | cons c cs => exact absurd (List.append_eq_nil_iff.mp h).1 (encodeChar_ne_nil set c)

/-! ### The front of an encoded text -/

lemma encode_cons (set : Char → Bool) (c : Char) (cs : List Char) :
    encode set (c :: cs) = encodeChar set c ++ encode set cs :=
  List.flatMap_cons

/-- An octet below 0x80 is an ASCII character. -/
lemma toNat_of_utf8EncodeChar {b : UInt8} {bs : List UInt8}
    (h : String.utf8EncodeChar c = b :: bs) (hb : b.toNat < 0x80) : c.toNat = b.toNat := by
  have hval : c.val.toNat = c.toNat := rfl
  unfold String.utf8EncodeChar at h
  dsimp only at h
  rw [hval] at h
  split at h
  · rw [← (List.cons.inj h).1, UInt8.toNat_ofNat']
    omega
  · split at h
    · rw [← (List.cons.inj h).1, UInt8.toNat_ofNat'] at hb
      omega
    · split at h <;>
      · rw [← (List.cons.inj h).1, UInt8.toNat_ofNat'] at hb
        omega

/-- What an encoded character begins with: itself, or the percent sign and the digits of an octet
that is no ASCII character but one of the set. -/
lemma encodeChar_cases (set : Char → Bool) (c : Char) : encodeChar set c = [c] ∨
    ∃ b : UInt8, ∃ rest, encodeChar set c = encodeOctet b ++ rest ∧
      (b.toNat < 0x80 → set (Char.ofNat b.toNat) = true) := by
  unfold encodeChar
  split
  · next hset =>
    obtain ⟨b, bs, hbytes⟩ := List.exists_cons_of_length_pos
      (Nat.lt_of_lt_of_eq c.utf8Size_pos (String.length_utf8EncodeChar c).symm)
    refine .inr ⟨b, bs.flatMap encodeOctet, by rw [hbytes, List.flatMap_cons], fun hb => ?_⟩
    have hcode := toNat_of_utf8EncodeChar hbytes hb
    rw [← hcode, Char.ofNat_toNat]
    exact hset.resolve_right (by omega)
  · exact .inl rfl

/-- An encoded text that begins with any character but the percent sign has it from the text. -/
lemma eq_cons_of_encode {t : List Char} (h : encode set cs = c :: t) (hc : c ≠ '%') :
    ∃ cs', cs = c :: cs' ∧ t = encode set cs' := by
  cases cs with
  | nil => cases h
  | cons d ds =>
    rw [encode_cons] at h
    rcases encodeChar_cases set d with hd | ⟨b, rest, hd, -⟩
    · rw [hd, List.singleton_append, List.cons.injEq] at h
      exact ⟨ds, by rw [h.1], h.2.symm⟩
    · rw [hd] at h
      exact absurd (List.cons.inj h).1.symm hc

/-! ### Decoding -/

lemma decode?_of_notMem (h : '%' ∉ cs) : decode? cs = some (String.ofList cs) := by
  have hoctets : decodeOctets cs = cs.flatMap String.utf8EncodeChar := by
    induction cs with
    | nil => rw [decodeOctets, List.flatMap_nil]
    | cons c cs ih =>
      rw [List.mem_cons, not_or] at h
      rw [decodeOctets.eq_def]
      simp only [Ne.symm h.1, if_false, ih h.2, List.flatMap_cons]
  have hbytes : (decodeOctets cs).toByteArray = (String.ofList cs).toByteArray := by
    rw [hoctets, String.toByteArray_ofList]
    rfl
  rw [decode?, hbytes, String.fromUTF8?, dif_pos (String.ofList cs).isValidUTF8]
  rfl

end TrafficFeed.Url
