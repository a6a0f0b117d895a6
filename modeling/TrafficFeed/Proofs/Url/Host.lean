import TrafficFeed.Proofs.Idn.Domain
import TrafficFeed.Proofs.Url.Address
import TrafficFeed.Proofs.Url.Percent
import TrafficFeed.Url.Parser

/-!
# Hosts are read back

A host is read back from its text, and its text is not mistaken for anything else in a target: it
holds nothing that ends it. Only a domain name with a part that has become too long is refused when
it is read again.
-/

namespace TrafficFeed.Url

open TrafficFeed.Net TrafficFeed.Text TrafficFeed.Idn

/-! ### The text of a host in a target -/

/-- A text that is taken as a whole where a host is expected. -/
structure HostText (t : List Char) : Prop where
  ne_nil : t ≠ []
  visible : ∀ c ∈ t, 0x20 < c.toNat
  whole : ∀ c ∈ t, c ∉ ['/', '\\', '?', '#', '@', '|']
  spans : ∀ rest, rest = [] ∨ (∃ cs, rest = ':' :: cs) → spanHost false (t ++ rest) = (t, rest)

variable {t cs : List Char} {host : Host}

lemma spanHost_of_end {rest : List Char} (hrest : rest = [] ∨ ∃ cs, rest = ':' :: cs) :
    spanHost false rest = ([], rest) := by
  rcases hrest with rfl | ⟨cs, rfl⟩ <;> simp [spanHost]

/-- A text without separators, colons and brackets is taken as a whole. -/
lemma HostText.of_forall (hne : t ≠ []) (h : ∀ c ∈ t,
    0x20 < c.toNat ∧ c ∉ ['/', '\\', '?', '#', '@', '|', ':', '[', ']']) : HostText t where
  ne_nil := hne
  visible c hc := (h c hc).1
  whole c hc hmem := (h c hc).2 (by
    simp only [List.mem_cons, List.not_mem_nil, or_false] at hmem ⊢
    tauto)
  spans rest hrest := by
    clear hne
    induction t with
    | nil => exact spanHost_of_end hrest
    | cons c cs ih =>
      have hc := (h c List.mem_cons_self).2
      simp only [List.mem_cons, List.not_mem_nil, or_false, not_or] at hc
      have hcs := ih fun d hd => h d (List.mem_cons_of_mem _ hd)
      rw [List.cons_append, spanHost, if_neg (by simp [hc])]
      simp [hc, hcs]

/-! ### Names -/

lemma HostText.of_plain (hne : t ≠ []) (h : ∀ c ∈ t, Plain c) : HostText t := by
  refine .of_forall hne fun c hc => ?_
  have hallowed := (h c hc).allowed
  simp only [isForbidden, Bool.or_eq_false_iff, decide_eq_false_iff_not, Nat.not_le] at hallowed
  exact ⟨hallowed.1.1, notMem_of_all (p := isForbidden) (by decide) (h c hc).allowed⟩

lemma decode?_of_plain (h : ∀ c ∈ t, Plain c) : decode? t = some (String.ofList t) := by
  refine decode?_of_notMem fun hmem => ?_
  exact absurd (h '%' hmem).allowed (by decide)

lemma notMem_bracket_of_plain (h : ∀ c ∈ t, Plain c) : '[' ∉ t := by
  intro hmem
  exact absurd (h '[' hmem).allowed (by decide)

/-- What a text without a bracket at its front is read as. -/
lemma ofDomain_of_domain {domain : List Char} (hfront : ∀ rest, t ≠ '[' :: rest)
    (hdecode : decode? t = some (String.ofList t)) (hdomain : toAscii? t = some domain)
    (hne : domain ≠ []) : Host.ofDomain t =
      if endsInNumber domain then
        match readIpv4? domain with
        | some ip => .ok (.ipv4 ip)
        | none => .error .invalidIpv4
      else .ok (.name (String.ofList domain)) := by
  unfold Host.ofDomain
  split
  · next rest => exact absurd rfl (hfront rest)
  · cases hip : readIpv4? domain <;>
      simp only [hdecode, Option.bind_some, String.toList_ofList, hdomain, if_neg hne, hip]

lemma ofDomain_of_none (hfront : ∀ rest, t ≠ '[' :: rest)
    (hdecode : decode? t = some (String.ofList t)) (hdomain : toAscii? t = none) :
    Host.ofDomain t = .error .invalidDomain := by
  unfold Host.ofDomain
  split
  · next rest => exact absurd rfl (hfront rest)
  · simp only [hdecode, Option.bind_some, String.toList_ofList, hdomain]

/-- A text without the letter has no part that stands for a label. -/
lemma not_isPrefixOf_of_notMem (h : 'x' ∉ t) {part : List Char} (hpart : part ∈ cut '.' t) :
    asciiMark.isPrefixOf part = false := by
  refine Bool.eq_false_iff.mpr fun hmark => ?_
  obtain ⟨rest, rfl⟩ := List.isPrefixOf_iff_prefix.mp hmark
  exact h (mem_of_mem_cut hpart (show 'x' ∈ asciiMark ++ rest from List.mem_cons_self)).1

lemma fit_of_notMem (h : 'x' ∉ t) : Fit t := by
  intro part hpart hmark
  rw [not_isPrefixOf_of_notMem h hpart] at hmark
  cases hmark

/-! ### Addresses of version four -/

/-- A character of an address of version four. -/
lemma isSome_of_mem_octets {ip : Ipv4} {c : Char} (h : c ∈ ip.toText.toList) :
    c = '.' ∨ (decimalDigit? c).isSome = true := by
  rw [toList_ipv4] at h
  refine (mem_intercalate h).imp_right fun ⟨part, hpart, hc⟩ => ?_
  obtain ⟨octet, -, rfl⟩ := List.mem_map.mp hpart
  have hall := (octet_toDigits octet.toNat octet.toNat_lt).2.1
  exact (Bool.and_eq_true_iff.mp (List.all_eq_true.mp hall c hc)).1

lemma plain_of_decimalDigit? {c : Char} (h : (decimalDigit? c).isSome = true) : Plain c := by
  have hrange : 48 ≤ c.toNat ∧ c.toNat ≤ 57 := by
    unfold decimalDigit? at h
    split at h
    · next hdigit => exact hdigit
    · cases h
  obtain ⟨hascii, hsmall, hallowed⟩ :=
    forall_below
      (P := fun c => 48 ≤ c.toNat → c.toNat < 0x80 ∧ c.toLower = c ∧ isForbidden c = false)
      (show ∀ n < 58, _ by decide) (Nat.lt_succ_of_le hrange.2) hrange.1
  exact ⟨hascii, hsmall, hallowed⟩

lemma plain_of_ipv4 (ip : Ipv4) : ∀ c ∈ ip.toText.toList, Plain c := by
  intro c hc
  rcases isSome_of_mem_octets hc with rfl | hdigit
  · exact ⟨by decide, by decide, by decide⟩
  · exact plain_of_decimalDigit? hdigit

lemma notMem_x_of_ipv4 (ip : Ipv4) : 'x' ∉ ip.toText.toList := by
  intro hx
  rcases isSome_of_mem_octets hx with heq | hdigit
  · exact absurd heq (by decide)
  · exact absurd hdigit (by decide)

lemma toList_ipv4_ne_nil (ip : Ipv4) : ip.toText.toList ≠ [] := by
  intro hnil
  have hcut := congrArg List.length (cut_ipv4 ip)
  rw [hnil] at hcut
  exact absurd hcut (by simp [octetParts, cut, cutWhere])

lemma ofDomain_ipv4 (ip : Ipv4) : Host.ofDomain ip.toText.toList = .ok (.ipv4 ip) := by
  have hplain := plain_of_ipv4 ip
  have hfront : ∀ rest, ip.toText.toList ≠ '[' :: rest := by
    intro rest heq
    exact notMem_bracket_of_plain hplain (heq ▸ List.mem_cons_self)
  have hdomain := toAscii?_of_plain hplain fun _ => not_isPrefixOf_of_notMem (notMem_x_of_ipv4 ip)
  rw [ofDomain_of_domain hfront (decode?_of_plain hplain) hdomain (toList_ipv4_ne_nil ip),
    if_pos (endsInNumber_toText ip), readIpv4?_toText]

/-! ### Addresses of version six -/

/-- A character of an address of version six. -/
lemma isSome_of_mem_shortGroups {gs : List UInt16} {c : Char} (h : c ∈ (shortGroups gs).toList) :
    c = ':' ∨ (hexDigit? c).isSome = true := by
  have hgroups : ∀ gs, c ∈ (groupsText gs).toList → c = ':' ∨ (hexDigit? c).isSome = true := by
    intro gs hc
    rw [toList_groupsText] at hc
    refine (mem_intercalate hc).imp_right fun ⟨part, hpart, hc⟩ => ?_
    obtain ⟨g, -, rfl⟩ := List.mem_map.mp hpart
    obtain ⟨ds, hds, -⟩ := exists_hexDigits g.toNat
    obtain ⟨d, -, hd⟩ := exists_of_mapM (mapM_eq_some_iff.mpr hds) hc
    rw [hd]
    rfl
  simp only [shortGroups] at h
  split at h
  · simp only [String.toList_append, List.mem_append] at h
    rcases h with (h | h) | h
    · exact hgroups _ h
    · left
      simpa using h
    · exact hgroups _ h
  · exact hgroups _ h

/-- Within brackets colons belong to the host. -/
lemma spanHost_inside (rest : List Char) (h : ∀ c ∈ cs, c ≠ '[' ∧ c ≠ ']') :
    spanHost true (cs ++ ']' :: rest) =
      (cs ++ ']' :: (spanHost false rest).1, (spanHost false rest).2) := by
  induction cs with
  | nil => simp [spanHost]
  | cons c cs ih =>
    obtain ⟨hopen, hclose⟩ := h c List.mem_cons_self
    have hcs := ih fun d hd => h d (List.mem_cons_of_mem _ hd)
    simp [spanHost, hopen, hclose, hcs]

lemma toList_ipv6 (ip : Ipv6) :
    (Host.ipv6 ip).toText.toList = '[' :: ((shortGroups ip.groups).toList ++ [']']) := by
  simp [Host.toText]

/-- No such character is a bracket, nor ends the host otherwise. -/
lemma of_hexDigit? {c : Char} (h : c = ':' ∨ (hexDigit? c).isSome = true) :
    0x20 < c.toNat ∧ c ∉ ['/', '\\', '?', '#', '@', '|', '[', ']'] := by
  constructor
  · rcases h with rfl | h
    · decide
    · unfold hexDigit? at h
      split at h
      · next hdigit => exact Nat.lt_of_lt_of_le (by decide) (show '0'.toNat ≤ c.toNat from hdigit.1)
      · split at h
        · next hdigit =>
          exact Nat.lt_of_lt_of_le (by decide) (show 'a'.toNat ≤ c.toNat from hdigit.1)
        · split at h
          · next hdigit =>
            exact Nat.lt_of_lt_of_le (by decide) (show 'A'.toNat ≤ c.toNat from hdigit.1)
          · cases h
  · intro hmem
    simp only [List.mem_cons, List.not_mem_nil, or_false] at hmem
    rcases hmem with rfl | rfl | rfl | rfl | rfl | rfl | rfl | rfl <;>
      exact absurd h (by decide)

lemma HostText.of_ipv6 (ip : Ipv6) : HostText (Host.ipv6 ip).toText.toList := by
  have hinner : ∀ c ∈ (shortGroups ip.groups).toList,
      0x20 < c.toNat ∧ c ∉ ['/', '\\', '?', '#', '@', '|', '[', ']'] :=
    fun c hc => of_hexDigit? (isSome_of_mem_shortGroups hc)
  rw [toList_ipv6]
  constructor
  case ne_nil => exact List.cons_ne_nil _ _
  case visible =>
    intro c hc
    simp only [List.mem_cons, List.mem_append, List.not_mem_nil, or_false] at hc
    rcases hc with rfl | hc | rfl
    · decide
    · exact (hinner c hc).1
    · decide
  case whole =>
    intro c hc
    simp only [List.mem_cons, List.mem_append, List.not_mem_nil, or_false] at hc
    rcases hc with rfl | hc | rfl
    · decide
    · have := (hinner c hc).2
      simp only [List.mem_cons, List.not_mem_nil, or_false] at this ⊢
      tauto
    · decide
  case spans =>
    intro rest hrest
    have hbrackets : ∀ c ∈ (shortGroups ip.groups).toList, c ≠ '[' ∧ c ≠ ']' := by
      intro c hc
      have := (hinner c hc).2
      simp only [List.mem_cons, List.not_mem_nil, or_false] at this
      tauto
    have hinside := spanHost_inside rest hbrackets
    rw [spanHost_of_end hrest] at hinside
    simp [spanHost, hinside]

lemma readBrackets_shortGroups (ip : Ipv6) :
    readBrackets ((shortGroups ip.groups).toList ++ [']']) = .ok (.ipv6 ip) := by
  have hinner : inBrackets? ((shortGroups ip.groups).toList ++ [']']) =
      some (shortGroups ip.groups).toList := by
    simp [inBrackets?]
  rw [readBrackets, hinner, Option.bind_some, readIpv6?_shortGroups]

lemma eq_of_readBrackets (h : readBrackets cs = .ok host) : ∃ ip, host = .ipv6 ip := by
  unfold readBrackets at h
  split at h
  · next ip _ => exact ⟨ip, (Except.ok.inj h).symm⟩
  · cases h

lemma notMem_x_of_ipv6 (ip : Ipv6) : 'x' ∉ (Host.ipv6 ip).toText.toList := by
  intro hx
  simp only [toList_ipv6, List.mem_cons, List.mem_append, List.not_mem_nil, or_false] at hx
  rcases hx with heq | hx | heq
  · exact absurd heq (by decide)
  · exact absurd (isSome_of_mem_shortGroups hx) (by decide)
  · exact absurd heq (by decide)

/-! ### Hosts -/

/-- A host within a scheme of the web or of files is read back, unless a part of its name has become
too long. -/
lemma ofDomain_toText (h : Host.ofDomain cs = .ok host) : HostText host.toText.toList ∧
    (Fit host.toText.toList → Host.ofDomain host.toText.toList = .ok host) ∧
      (¬ Fit host.toText.toList → Host.ofDomain host.toText.toList = .error .invalidDomain) := by
  unfold Host.ofDomain at h
  split at h
  · obtain ⟨ip, rfl⟩ := eq_of_readBrackets h
    refine ⟨.of_ipv6 ip, fun _ => ?_, fun hfit => absurd (fit_of_notMem (notMem_x_of_ipv6 ip)) hfit⟩
    rw [toList_ipv6]
    exact readBrackets_shortGroups ip
  · split at h
    · cases h
    · next domain hascii =>
      obtain ⟨name, -, hascii⟩ := Option.bind_eq_some_iff.mp hascii
      obtain ⟨hplain, hfit, hlong⟩ := toAscii?_of_toAscii? hascii
      split at h
      · cases h
      · next hne =>
        split at h
        · split at h
          · next ip _ =>
            obtain rfl := Except.ok.inj h
            exact ⟨.of_plain (toList_ipv4_ne_nil ip) (plain_of_ipv4 ip), fun _ => ofDomain_ipv4 ip,
              fun hfit => absurd (fit_of_notMem (notMem_x_of_ipv4 ip)) hfit⟩
          · cases h
        · next hnumber =>
          obtain rfl := Except.ok.inj h
          have hfront : ∀ rest, domain ≠ '[' :: rest := by
            intro rest heq
            exact notMem_bracket_of_plain hplain (heq ▸ List.mem_cons_self)
          have hdecode := decode?_of_plain hplain
          rw [Host.toText, String.toList_ofList]
          refine ⟨.of_plain hne hplain, fun h => ?_, fun h => ?_⟩
          · rw [ofDomain_of_domain hfront hdecode (hfit h) hne, if_neg hnumber]
          · exact ofDomain_of_none hfront hdecode (hlong h)

/-- A host within any other scheme is read back. -/
lemma ofOpaque_toText (h : Host.ofOpaque cs = .ok (some host)) : HostText host.toText.toList ∧
    Host.ofOpaque host.toText.toList = .ok (some host) := by
  unfold Host.ofOpaque at h
  split at h
  · cases h
  · next rest =>
    cases hread : readBrackets rest with
    | error e =>
      rw [hread] at h
      cases h
    | ok host' =>
      rw [hread] at h
      obtain rfl := Option.some.inj (Except.ok.inj h)
      obtain ⟨ip, rfl⟩ := eq_of_readBrackets hread
      refine ⟨.of_ipv6 ip, ?_⟩
      rw [toList_ipv6, Host.ofOpaque, readBrackets_shortGroups]
      rfl
  · next hne hfront =>
    split at h
    · cases h
    · next hseparators =>
      obtain rfl := Option.some.inj (Except.ok.inj h)
      rw [Host.toText, String.toList_ofList]
      have hwhole : ∀ c ∈ encode controlSet cs, isSeparator c = false := by
        intro c hc
        rcases mem_encode hc with ⟨hmem, -⟩ | hcode
        · exact Bool.eq_false_iff.mpr fun hc => hseparators (List.any_eq_true.mpr ⟨c, hmem, hc⟩)
        · exact isCode_cases (P := fun c => isSeparator c = false) (by decide) (by decide) c hcode
      have hne' : encode controlSet cs ≠ [] := fun hnil => hne (encode_eq_nil.mp hnil)
      refine ⟨.of_forall hne' fun c hc => ⟨?_, ?_⟩, ?_⟩
      · refine visible_of_controlSet (clean_of_mem_encode spares_controlSet hc).1 ?_
        rintro rfl
        exact absurd (hwhole ' ' hc) (by decide)
      · exact notMem_of_all (p := isSeparator) (by decide) (hwhole c hc)
      · unfold Host.ofOpaque
        split
        · next hnil => exact absurd hnil hne'
        · next rest hfront =>
          exact absurd (hwhole '[' (hfront ▸ List.mem_cons_self)) (by decide)
        · rw [if_neg, encode_encode spares_controlSet]
          rw [Bool.not_eq_true, List.any_eq_false]
          exact fun c hc => by simp [hwhole c hc]

end TrafficFeed.Url
