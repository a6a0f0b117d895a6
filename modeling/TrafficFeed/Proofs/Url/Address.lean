import Mathlib.Tactic.IntervalCases
import TrafficFeed.Proofs.Text.Cut
import TrafficFeed.Proofs.Text.Numeral
import TrafficFeed.Url.Host

/-!
# Addresses are read back

An address is read back from its text: one of version four from its octets, one of version six from
its groups, of which the longest run of zeros may have been left out.
-/

namespace TrafficFeed.Url

open TrafficFeed.Net TrafficFeed.Text

/-! ### Addresses of version four -/

/-- An octet as text: decimal digits without a zero in front, which read as the octet. -/
lemma octet_toDigits : ∀ n < 256, Nat.toDigits 10 n ≠ [] ∧
    (Nat.toDigits 10 n).all (fun c => (decimalDigit? c).isSome && c != '.') = true ∧
    ipv4Number? (Nat.toDigits 10 n) = some n := by
  decide +kernel

/-- The parts of an address as text. -/
def octetParts (ip : Ipv4) : List (List Char) :=
  [ip.a, ip.b, ip.c, ip.d].map fun octet => Nat.toDigits 10 octet.toNat

lemma toList_ipv4 (ip : Ipv4) : ip.toText.toList = ['.'].intercalate (octetParts ip) := by
  simp [Ipv4.toText, octetParts]

lemma cut_ipv4 (ip : Ipv4) : cut '.' ip.toText.toList = octetParts ip := by
  rw [toList_ipv4]
  refine cut_intercalate (List.cons_ne_nil _ _) fun part hpart hdot => ?_
  obtain ⟨octet, -, rfl⟩ := List.mem_map.mp hpart
  have hall := (octet_toDigits octet.toNat octet.toNat_lt).2.1
  simpa using List.all_eq_true.mp hall '.' hdot

lemma shift_add_shift (m octet : Nat) :
    (octet <<< 24) + (m >>> 8) = 16777216 * octet + m / 256 := by
  rw [Nat.shiftLeft_eq, Nat.shiftRight_eq_div_pow, Nat.mul_comm]

lemma ofNumbers?_octets (ip : Ipv4) :
    Ipv4.ofNumbers? [ip.a.toNat, ip.b.toNat, ip.c.toNat, ip.d.toNat] = some ip := by
  obtain ⟨a, b, c, d⟩ := ip
  have ha := a.toNat_lt
  have hb := b.toNat_lt
  have hc := c.toNat_lt
  have hd := d.toNat_lt
  have hfold : [c.toNat, b.toNat, a.toNat].foldl (fun m octet => (octet <<< 24) + (m >>> 8)) 0 +
      d.toNat = 16777216 * a.toNat + 65536 * b.toNat + 256 * c.toNat + d.toNat := by
    simp only [List.foldl_cons, List.foldl_nil, shift_add_shift]
    omega
  have hbounds : ¬ (4 < [a.toNat, b.toNat, c.toNat, d.toNat].length ∨
      1 <<< (8 * (5 - [a.toNat, b.toNat, c.toNat, d.toNat].length)) ≤ d.toNat ∨
        [c.toNat, b.toNat, a.toNat].any (255 < ·) = true) := by
    simp
    omega
  have hoctet : ∀ (n : Nat) (octet : UInt8), n % 256 = octet.toNat → UInt8.ofNat n = octet :=
    fun n octet h => UInt8.toNat_inj.mp (UInt8.toNat_ofNat'.trans h)
  simp only [Ipv4.ofNumbers?, List.reverse_cons, List.reverse_nil, List.nil_append,
    List.cons_append, if_neg hbounds, hfold, Option.some.injEq, Ipv4.mk.injEq]
  clear hfold hbounds
  exact ⟨hoctet _ _ (by omega), hoctet _ _ (by omega), hoctet _ _ (by omega),
    hoctet _ _ (by omega)⟩

lemma readIpv4?_toText (ip : Ipv4) : readIpv4? ip.toText.toList = some ip := by
  have hread : (octetParts ip).mapM ipv4Number? =
      some [ip.a.toNat, ip.b.toNat, ip.c.toNat, ip.d.toNat] := by
    rw [mapM_eq_some_iff, octetParts, List.forall₂_map_left_iff]
    have hoctet : ∀ octet : UInt8, ipv4Number? (Nat.toDigits 10 octet.toNat) = some octet.toNat :=
      fun octet => (octet_toDigits octet.toNat octet.toNat_lt).2.2
    exact .cons (hoctet _) (.cons (hoctet _) (.cons (hoctet _) (.cons (hoctet _) .nil)))
  have hlast := (octet_toDigits ip.d.toNat ip.d.toNat_lt).1
  simp only [readIpv4?, cut_ipv4]
  split
  · next front heq => exact absurd (List.cons.inj heq).1 hlast
  · simp only [hread, Option.bind_eq_bind, Option.bind_some, ofNumbers?_octets]

lemma endsInNumber_toText (ip : Ipv4) : endsInNumber ip.toText.toList = true := by
  obtain ⟨hne, hall, -⟩ := octet_toDigits ip.d.toNat ip.d.toNat_lt
  have hdigits : (Nat.toDigits 10 ip.d.toNat).all (fun c => (decimalDigit? c).isSome) = true :=
    List.all_eq_true.mpr fun c hc => (Bool.and_eq_true_iff.mp (List.all_eq_true.mp hall c hc)).1
  rw [endsInNumber, cut_ipv4]
  obtain ⟨c, cs, hdigit⟩ := List.exists_cons_of_ne_nil hne
  rw [hdigit] at hdigits
  simp [octetParts, hdigit, hdigits]

/-! ### Digits -/

lemma exists_hexDigits (n : Nat) : ∃ ds,
    List.Forall₂ (fun c d => hexDigit? c = some d) (Nat.toDigits 16 n) ds ∧
      ds.foldl (16 * · + ·) 0 = n :=
  exists_digits (by decide) hexDigit? (by decide) n

/-! ### Groups -/

/-- What ends a group: the end of the text, or a colon. -/
def EndsGroup (rest : List Char) : Prop := rest = [] ∨ ∃ cs, rest = ':' :: cs

/-- The digits of a group are taken up to its end. -/
lemma takeGroup_append {most : Nat} {cs rest : List Char} {ds : List Nat}
    (hds : List.Forall₂ (fun c d => hexDigit? c = some d) cs ds) (hmost : cs.length ≤ most)
    (hrest : EndsGroup rest) : takeGroup most (cs ++ rest) = (ds, rest) := by
  induction hds generalizing most with
  | nil =>
    rcases hrest with rfl | ⟨cs, rfl⟩
    · cases most <;> rfl
    · cases most with
      | zero => rfl
      | succ most => rfl
  | cons hc _ ih =>
    cases most with
    | zero => simp at hmost
    | succ most => simp [takeGroup, hc, ih (Nat.le_of_succ_le_succ hmost)]

/-- The digits of a group. -/
def groupChars (g : UInt16) : List Char := Nat.toDigits 16 g.toNat

lemma takeGroup_groupChars (g : UInt16) {rest : List Char} (hrest : EndsGroup rest) :
    ∃ d ds, takeGroup 4 (groupChars g ++ rest) = (d :: ds, rest) ∧
      UInt16.ofNat ((d :: ds).foldl (16 * · + ·) 0) = g := by
  obtain ⟨values, hvalues, hvalue⟩ := exists_hexDigits g.toNat
  have hlength : (groupChars g).length ≤ 4 :=
    (Nat.length_toDigits_le_iff (by decide) (by decide)).mpr g.toNat_lt
  have htake := takeGroup_append hvalues hlength hrest
  cases values with
  | nil => exact absurd (List.forall₂_nil_right_iff.mp hvalues) Nat.toDigits_ne_nil
  | cons d ds => exact ⟨d, ds, htake, by rw [hvalue, UInt16.ofNat_toNat]⟩

lemma exists_groupChars (g : UInt16) : ∃ c cs, groupChars g = c :: cs ∧ c ≠ ':' := by
  obtain ⟨values, hvalues, -⟩ := exists_hexDigits g.toNat
  obtain ⟨c, cs, hdigits⟩ := List.exists_cons_of_ne_nil (@Nat.toDigits_ne_nil g.toNat 16)
  rw [hdigits] at hvalues
  obtain ⟨d, ds, hd, -⟩ := List.forall₂_cons_left_iff.mp hvalues
  refine ⟨c, cs, hdigits, ?_⟩
  rintro rfl
  cases hd

/-- The group at the end of a text. -/
lemma readGroups6_last (left size : Nat) (gap : Option Nat) (g : UInt16) :
    readGroups6 (left + 1) size gap (groupChars g) = some ([g], gap) := by
  obtain ⟨d, ds, htake, hvalue⟩ := takeGroup_groupChars g (.inl rfl)
  obtain ⟨c, cs, hdigits, hc⟩ := exists_groupChars g
  rw [List.append_nil] at htake
  rw [readGroups6, htake]
  · dsimp only
    rw [hvalue]
  · rw [hdigits]
    exact fun h => by cases h
  · rw [hdigits]
    exact fun cs h => hc (List.cons.inj h).1

/-- A group before another one, or before the place where a run is left out. -/
lemma readGroups6_cons (left size : Nat) (gap : Option Nat) (g : UInt16) (c : Char)
    (rest : List Char) :
    readGroups6 (left + 1) size gap (groupChars g ++ ':' :: c :: rest) =
      (readGroups6 left (size + 1) gap (c :: rest)).map fun r => (g :: r.1, r.2) := by
  have hends : EndsGroup (':' :: c :: rest) := .inr ⟨_, rfl⟩
  obtain ⟨d, ds, htake, hvalue⟩ := takeGroup_groupChars g hends
  obtain ⟨b, cs, hdigits, hb⟩ := exists_groupChars g
  rw [readGroups6, htake]
  · split
    · next heq => cases heq
    · next heq => simp at heq
    · next ds' rest' _ _ heq =>
      obtain ⟨rfl, rfl⟩ := Prod.mk.inj heq
      simp only [hvalue]
      cases readGroups6 left (size + 1) gap (c :: rest) <;> rfl
  · rw [hdigits]
    exact fun h => by cases h
  · rw [hdigits]
    exact fun cs h => hb (List.cons.inj h).1

/-! ### Addresses of version six -/

/-- Groups with colons between them. -/
def groupsChars (gs : List UInt16) : List Char := [':'].intercalate (gs.map groupChars)

lemma toList_groupsText (gs : List UInt16) : (groupsText gs).toList = groupsChars gs := by
  simp only [groupsText, groupsChars, hex, String.toList_intercalate, List.map_map]
  congr 1
  exact List.map_congr_left fun g _ => String.toList_ofList

lemma groupsChars_cons_cons (g g' : UInt16) (gs : List UInt16) :
    groupsChars (g :: g' :: gs) = groupChars g ++ ':' :: groupsChars (g' :: gs) := by
  simp [groupsChars, List.intercalate_cons_cons]

lemma exists_groupsChars (g : UInt16) (gs : List UInt16) :
    ∃ c cs, groupsChars (g :: gs) = c :: cs ∧ c ≠ ':' := by
  obtain ⟨c, cs, hdigits, hc⟩ := exists_groupChars g
  cases gs with
  | nil => exact ⟨c, cs, by simp [groupsChars, hdigits], hc⟩
  | cons g' gs => exact ⟨c, _, by rw [groupsChars_cons_cons, hdigits]; rfl, hc⟩

/-- Groups at the end of a text, perhaps none. -/
lemma readGroups6_groupsChars {gs : List UInt16} {left : Nat} (h : gs.length ≤ left) (size : Nat)
    (gap : Option Nat) : readGroups6 left size gap (groupsChars gs) = some (gs, gap) := by
  induction gs generalizing left size with
  | nil => cases left <;> rfl
  | cons g gs ih =>
    cases left with
    | zero => simp at h
    | succ left =>
      cases gs with
      | nil =>
        have hlast := readGroups6_last left size gap g
        simpa [groupsChars] using hlast
      | cons g' gs =>
        obtain ⟨c, cs, hchars, -⟩ := exists_groupsChars g' gs
        have hrest := ih (Nat.le_of_succ_le_succ h) (size + 1)
        rw [groupsChars_cons_cons, hchars, readGroups6_cons, ← hchars, hrest]
        rfl

/-- Groups before the place where a run is left out, and groups behind it. The run counts as one
zero. -/
lemma readGroups6_gap {g : UInt16} {gs back : List UInt16} {left : Nat}
    (h : (g :: gs).length + 1 + back.length ≤ left) (size : Nat) :
    readGroups6 left size none (groupsChars (g :: gs) ++ ':' :: ':' :: groupsChars back) =
      some (g :: gs ++ 0 :: back, some (size + (g :: gs).length + 1)) := by
  induction gs generalizing g left size with
  | nil =>
    obtain ⟨left, rfl⟩ : ∃ k, left = k + 2 := ⟨left - 2, by simp at h; omega⟩
    have hback : back.length ≤ left := by simp at h; omega
    have hrest := readGroups6_groupsChars hback (size + 2) (some (size + 2))
    have hsingle : groupsChars [g] = groupChars g := by simp [groupsChars]
    rw [hsingle, readGroups6_cons, readGroups6, hrest]
    rfl
  | cons g' gs ih =>
    obtain ⟨left, rfl⟩ : ∃ k, left = k + 1 := ⟨left - 1, by simp at h; omega⟩
    obtain ⟨c, cs, hchars, -⟩ := exists_groupsChars g' gs
    have hrest := @ih g' left (by simp at h ⊢; omega) (size + 1)
    rw [groupsChars_cons_cons, List.append_assoc, List.cons_append, hchars, List.cons_append,
      readGroups6_cons, ← List.cons_append, ← hchars, hrest]
    simp
    omega

lemma eq_replicate_zeroRun (gs : List UInt16) :
    zeroRun gs ≤ gs.length ∧ gs = List.replicate (zeroRun gs) 0 ++ gs.drop (zeroRun gs) := by
  induction gs with
  | nil => exact ⟨Nat.le_refl _, rfl⟩
  | cons g gs ih =>
    by_cases hg : g = 0
    · obtain ⟨hle, heq⟩ := ih
      have hrun : zeroRun (g :: gs) = zeroRun gs + 1 := by simp [zeroRun, hg]
      rw [hrun, List.replicate_succ, List.drop_succ_cons, List.cons_append, ← heq, hg]
      exact ⟨Nat.succ_le_succ hle, rfl⟩
    · have hrun : zeroRun (g :: gs) = 0 := by simp [zeroRun, hg]
      rw [hrun]
      exact ⟨Nat.zero_le _, rfl⟩

/-- The run of zeros that is found is there. -/
lemma longestZeroRun_spec (k : Nat) (gs : List UInt16) : ∃ i n, longestZeroRun k gs = (k + i, n) ∧
    i + n ≤ gs.length ∧ gs = gs.take i ++ List.replicate n 0 ++ gs.drop (i + n) := by
  induction gs generalizing k with
  | nil => exact ⟨0, 0, rfl, Nat.le_refl _, rfl⟩
  | cons g gs ih =>
    obtain ⟨i, n, hlater, hle, heq⟩ := ih (k + 1)
    simp only [longestZeroRun]
    split
    · obtain ⟨hle, heq⟩ := eq_replicate_zeroRun (g :: gs)
      exact ⟨0, _, rfl, by simpa using hle, by simpa using heq⟩
    · refine ⟨i + 1, n, by rw [hlater, Nat.add_assoc, Nat.add_comm 1], ?_, ?_⟩
      · rw [List.length_cons]
        omega
      · rw [Nat.add_right_comm, List.take_succ_cons, List.drop_succ_cons, List.cons_append,
          List.cons_append, ← heq]

/-- Groups with the run that was left out. -/
def filled (groups : List UInt16) : Option Nat → List UInt16
  | some i => groups.take i ++ List.replicate (8 - groups.length) 0 ++ groups.drop i
  | none => groups

lemma filled_gap {front back gs : List UInt16} {n : Nat} (hlength : gs.length = 8) (hn : 2 ≤ n)
    (heq : gs = front ++ List.replicate n 0 ++ back) :
    filled (front ++ 0 :: back) (some (front.length + 1)) = gs := by
  have hsplit : front ++ 0 :: back = front ++ [0] ++ back := by simp
  have htake : (front ++ 0 :: back).take (front.length + 1) = front ++ [0] :=
    hsplit ▸ List.take_left' List.length_append
  have hdrop : (front ++ 0 :: back).drop (front.length + 1) = back :=
    hsplit ▸ List.drop_left' List.length_append
  have hsize : 8 - (front ++ 0 :: back).length + 1 = n := by
    have hparts := congrArg List.length heq
    simp only [List.length_append, List.length_replicate, List.length_cons] at hparts ⊢
    omega
  rw [filled, htake, hdrop, heq, ← hsize, List.replicate_succ]
  simp

lemma dif_filled {groups : List UInt16} {ip : Ipv6} (h : groups = ip.groups) :
    (if h : groups.length = 8 then some (Ipv6.mk groups h) else none) = some ip := by
  subst h
  exact dif_pos ip.size

lemma readIpv6?_of_front {c d : Char} {cs : List Char} {groups : List UInt16} {gap : Option Nat}
    (hc : c ≠ ':') (h : readGroups6 8 0 none (c :: d :: cs) = some (groups, gap)) (ip : Ipv6)
    (hfilled : filled groups gap = ip.groups) : readIpv6? (c :: d :: cs) = some ip := by
  unfold readIpv6?
  split
  · next heq => exact absurd (List.cons.inj heq).1 hc
  · next heq => exact absurd (List.cons.inj heq).1 hc
  · next heq => cases heq
  · next heq => cases heq
  · rw [h]
    exact dif_filled hfilled

lemma readIpv6?_of_gap {cs : List Char} {groups : List UInt16} {gap : Option Nat}
    (h : readGroups6 7 1 (some 1) cs = some (groups, gap)) (ip : Ipv6)
    (hfilled : filled (0 :: groups) gap = ip.groups) :
    readIpv6? (':' :: ':' :: cs) = some ip := by
  unfold readIpv6?
  simp only [h]
  exact dif_filled hfilled

/-- An address of version six is read back from its shortest form. -/
lemma readIpv6?_shortGroups (ip : Ipv6) : readIpv6? (shortGroups ip.groups).toList = some ip := by
  obtain ⟨i, n, hrun, hle, heq⟩ := longestZeroRun_spec 0 ip.groups
  rw [Nat.zero_add] at hrun
  have hsize := ip.size
  by_cases hn : 2 ≤ n
  case neg =>
    have htext : (shortGroups ip.groups).toList = groupsChars ip.groups := by
      rw [shortGroups, hrun]
      simp only [if_neg hn, toList_groupsText]
    obtain ⟨c, d, cs, hchars, hc⟩ : ∃ c d cs, groupsChars ip.groups = c :: d :: cs ∧ c ≠ ':' := by
      match ip.groups, hsize with
      | g :: g' :: gs, _ =>
        obtain ⟨c, cs, hdigits, hc⟩ := exists_groupChars g
        rw [groupsChars_cons_cons, hdigits]
        cases cs with
        | nil => exact ⟨c, _, _, rfl, hc⟩
        | cons d cs => exact ⟨c, d, _, rfl, hc⟩
    have hread := readGroups6_groupsChars (Nat.le_of_eq hsize) 0 none
    rw [hchars] at hread
    rw [htext, hchars]
    exact readIpv6?_of_front hc hread ip rfl
  case pos =>
    have htext : (shortGroups ip.groups).toList = groupsChars (ip.groups.take i) ++
        ':' :: ':' :: groupsChars (ip.groups.drop (i + n)) := by
      rw [shortGroups, hrun]
      simp [hn, toList_groupsText]
    have hback : (ip.groups.drop (i + n)).length = 8 - (i + n) := by rw [List.length_drop, hsize]
    have hfilled := filled_gap hsize hn heq
    rw [htext]
    cases hfront : ip.groups.take i with
    | nil =>
      have hread := readGroups6_groupsChars (show (ip.groups.drop (i + n)).length ≤ 7 by omega) 1
        (some 1)
      rw [hfront] at hfilled
      exact readIpv6?_of_gap hread ip hfilled
    | cons g gs =>
      have hlength : (g :: gs).length = i := by
        rw [← hfront, List.length_take]
        omega
      have hread := @readGroups6_gap g gs (ip.groups.drop (i + n)) 8 (by omega) 0
      obtain ⟨c, cs, hchars, hc⟩ := exists_groupsChars g gs
      rw [hfront] at hfilled
      rw [Nat.zero_add, hchars] at hread
      rw [hchars]
      cases cs with
      | nil => exact readIpv6?_of_front hc hread ip hfilled
      | cons d cs => exact readIpv6?_of_front hc hread ip hfilled

end TrafficFeed.Url
