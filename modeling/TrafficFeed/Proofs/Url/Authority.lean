import TrafficFeed.Proofs.Url.Host
import TrafficFeed.Proofs.Url.Path
import TrafficFeed.Url.Parser

/-!
# Authorities are read back

A host with a port behind it is read as that host and that port, and what follows them is left to
the path.
-/

namespace TrafficFeed.Url

open TrafficFeed.Net TrafficFeed.Text TrafficFeed.Idn

lemma eq_of_ite {α : Type} {p : Prop} [Decidable p] {e : Error} {a b : α}
    (h : (if p then .error e else .ok a) = (.ok b : Except Error α)) : a = b := by
  split at h
  · cases h
  · exact Except.ok.inj h

/-! ### Ports -/

/-- A port as it stands behind a host. -/
def portText : Option UInt16 → List Char
  | none => []
  | some port => ':' :: Nat.toDigits 10 port.toNat

lemma le_foldl_digits (ds : List Nat) (n : Nat) : n ≤ ds.foldl (10 * · + ·) n := by
  induction ds generalizing n with
  | nil => exact Nat.le_refl n
  | cons d ds ih =>
    calc n ≤ 10 * n + d := by omega
      _ ≤ ds.foldl (10 * · + ·) (10 * n + d) := ih _

/-- Digits behind those that have been read. -/
lemma readPort_of_digits {cs : List Char} {ds : List Nat}
    (h : List.Forall₂ (fun c d => decimalDigit? c = some d) cs ds) {n : Nat}
    (hbound : ds.foldl (10 * · + ·) n < 65536) :
    readPort (some n) cs = .ok (some (ds.foldl (10 * · + ·) n), []) := by
  induction h generalizing n with
  | nil => rfl
  | @cons c d cs ds hc _ ih =>
    have hstep : 10 * n + d < 65536 := Nat.lt_of_le_of_lt (le_foldl_digits ds _) hbound
    have hrest := ih hbound
    simpa [readPort, hc, hstep] using hrest

lemma readPort_toDigits (port : UInt16) :
    readPort none (Nat.toDigits 10 port.toNat) = .ok (some port.toNat, []) := by
  obtain ⟨values, hvalues, hvalue⟩ :=
    exists_digits (show 1 < 10 by decide) decimalDigit? (by decide) port.toNat
  obtain ⟨c, cs, hdigits⟩ := List.exists_cons_of_ne_nil (@Nat.toDigits_ne_nil port.toNat 10)
  rw [hdigits] at hvalues ⊢
  obtain ⟨d, ds, hc, hcs, rfl⟩ := List.forall₂_cons_left_iff.mp hvalues
  have hbound : ds.foldl (10 * · + ·) d < 65536 := by
    simp only [List.foldl_cons, Nat.mul_zero, Nat.zero_add] at hvalue
    exact hvalue ▸ port.toNat_lt
  have hstep : d < 65536 := Nat.lt_of_le_of_lt (le_foldl_digits ds d) hbound
  have hrest := readPort_of_digits hcs hbound
  simp only [List.foldl_cons, Nat.mul_zero, Nat.zero_add] at hvalue
  simp [readPort, hc, hstep, hrest, hvalue]

/-- A character of a port, or the colon before it. -/
lemma mem_portText {port : Option UInt16} {c : Char} (h : c ∈ portText port) :
    0x20 < c.toNat ∧ c ∉ ['/', '\\', '?', '#', '@'] := by
  cases port with
  | none => exact absurd h List.not_mem_nil
  | some port =>
    rcases List.mem_cons.mp h with rfl | h
    · decide
    · have hc := Nat.isDigit_of_mem_toDigits (by decide) (by decide) h
      have hrange : 48 ≤ c.toNat ∧ c.toNat ≤ 57 := by
        simpa [Char.isDigit, UInt32.le_iff_toNat_le] using hc
      exact forall_below
        (P := fun c => 48 ≤ c.toNat → 0x20 < c.toNat ∧ c ∉ ['/', '\\', '?', '#', '@'])
        (show ∀ n < 58, _ by decide) (Nat.lt_succ_of_le hrange.2) hrange.1

/-! ### Hosts -/

variable {kind : Kind} {scheme : String} {host : Host} {cs : List Char}

/-- A host is read back, unless a part of its name has become too long. -/
lemma readHost_toText (h : readHost kind cs = .ok (some host)) : HostText host.toText.toList ∧
    ((kind.isSpecial = true → Fit host.toText.toList) →
      readHost kind host.toText.toList = .ok (some host)) ∧
    (kind.isSpecial = true → ¬ Fit host.toText.toList →
      readHost kind host.toText.toList = .error .invalidDomain) := by
  unfold readHost at h
  split at h
  · next hspecial =>
    split at h
    · cases h
    · cases hdomain : Host.ofDomain cs with
      | error e =>
        rw [hdomain] at h
        cases h
      | ok host' =>
        rw [hdomain] at h
        obtain rfl := Option.some.inj (Except.ok.inj h)
        obtain ⟨htext, hfit, hlong⟩ := ofDomain_toText hdomain
        refine ⟨htext, fun h => ?_, fun _ h => ?_⟩
        · rw [readHost, if_pos hspecial, if_neg htext.ne_nil, hfit (h hspecial)]
          rfl
        · rw [readHost, if_pos hspecial, if_neg htext.ne_nil, hlong h]
          rfl
  · next hspecial =>
    obtain ⟨htext, hback⟩ := ofOpaque_toText h
    refine ⟨htext, fun _ => ?_, fun h => absurd h hspecial⟩
    rw [readHost, if_neg hspecial, hback]

/-! ### Host and port -/

/-- The port that is kept of the one given. -/
def keptPort (scheme : String) (port : Option UInt16) : Option UInt16 :=
  if port = knownPort? scheme then none else port

@[simp] lemma keptPort_none (scheme : String) : keptPort scheme none = none := by
  simp [keptPort]

variable {t : List Char}

lemma spanHost_portText (ht : HostText t) (port : Option UInt16) :
    spanHost false (t ++ portText port) = (t, portText port) := by
  refine ht.spans _ ?_
  cases port with
  | none => exact .inl rfl
  | some port => exact .inr ⟨_, rfl⟩

lemma readHostPort_portText (ht : HostText t) (port : Option UInt16)
    (hread : readHost (Kind.ofScheme scheme) t = .ok (some host)) :
    readHostPort scheme (t ++ portText port) = .ok (some host, keptPort scheme port, []) := by
  rw [readHostPort, spanHost_portText ht]
  simp only [hread]
  cases port with
  | none =>
    rw [keptPort_none]
    rfl
  | some port =>
    simp [portText, readPort_toDigits, keptPort, bind, Except.bind]

lemma readHostPort_of_error (ht : HostText t) (port : Option UInt16) {e : Error}
    (hread : readHost (Kind.ofScheme scheme) t = .error e) :
    readHostPort scheme (t ++ portText port) = .error e := by
  rw [readHostPort, spanHost_portText ht]
  simp only [hread]
  rfl

/-- The host that is read, if there is one, comes from some part of the text. -/
lemma exists_of_readHostPort {port : Option UInt16} {rest : List Char} {host : Option Host}
    (h : readHostPort scheme cs = .ok (host, port, rest)) :
    ∃ text, readHost (Kind.ofScheme scheme) text = .ok host := by
  obtain ⟨host', hread, h⟩ := exists_of_bind h
  refine ⟨_, hread.trans (congrArg Except.ok ?_)⟩
  split at h
  · exact (Prod.mk.inj (Except.ok.inj h)).1
  · split at h
    · cases h
    · obtain ⟨_, -, h⟩ := exists_of_bind h
      exact (Prod.mk.inj (Except.ok.inj h)).1

/-! ### Authorities -/

/-- What follows an authority: nothing, or a path with its slash. -/
def StartsPath (path : List Char) : Prop := path = [] ∨ ∃ body, path = '/' :: body

lemma isSlash_slash (kind : Kind) : isSlash kind '/' = true := by
  simp [isSlash]

lemma takeWhile_of_startsPath (kind : Kind) {text path : List Char}
    (htext : ∀ c ∈ text, isSlash kind c = false) (hpath : StartsPath path) :
    (text ++ path).takeWhile (fun c => !isSlash kind c) = text ∧
      (text ++ path).dropWhile (fun c => !isSlash kind c) = path := by
  have hall : ∀ c ∈ text, (!isSlash kind c) = true := fun c hc => by simp [htext c hc]
  rw [List.takeWhile_append_of_pos hall, List.dropWhile_append_of_pos hall]
  rcases hpath with rfl | ⟨body, rfl⟩
  · simp
  · simp [isSlash_slash]

lemma splitAtLast?_of_notMem {sep : Char} (h : sep ∉ cs) : splitAtLast? sep cs = none := by
  induction cs with
  | nil => rfl
  | cons c cs ih =>
    rw [List.mem_cons, not_or] at h
    simp [splitAtLast?, ih h.2, Ne.symm h.1]

lemma not_isSlash_of_notMem (kind : Kind) {c : Char} (h : c ∉ ['/', '\\', '?', '#', '@']) :
    isSlash kind c = false := by
  simp only [List.mem_cons, List.not_mem_nil, or_false, not_or] at h
  simp [isSlash, h.1, h.2.1]

/-- A character of a host with its port. -/
lemma HostText.notMem_append (ht : HostText t) (port : Option UInt16) {c : Char}
    (hc : c ∈ t ++ portText port) : c ∉ ['/', '\\', '?', '#', '@'] := by
  rcases List.mem_append.mp hc with hc | hc
  · have := ht.whole c hc
    simp only [List.mem_cons, List.not_mem_nil, or_false] at this ⊢
    tauto
  · exact (mem_portText hc).2

/-- An authority without a user is read as its host and its port. -/
lemma readAuthority_eq (ht : HostText t) (port : Option UInt16) {path : List Char}
    (hpath : StartsPath path) (hasTail : Bool) :
    readAuthority scheme (t ++ portText port ++ path) hasTail =
      (readHostPort scheme (t ++ portText port)).bind fun (host, port, rest) =>
        .ok (⟨"", none, host, port⟩, rest ++ path) := by
  have hmem : ∀ c ∈ t ++ portText port, c ∉ ['/', '\\', '?', '#', '@'] :=
    fun c hc => ht.notMem_append port hc
  obtain ⟨htake, hdrop⟩ := takeWhile_of_startsPath (Kind.ofScheme scheme)
    (fun c hc => not_isSlash_of_notMem _ (hmem c hc)) hpath
  have hat : '@' ∉ t ++ portText port := fun hc => hmem '@' hc (by decide)
  have hne : t ++ portText port ≠ ['@'] := fun heq => hat (heq ▸ List.mem_cons_self)
  rw [readAuthority]
  simp only [htake, hdrop, splitAtLast?_of_notMem hat, hne, false_and, if_false]
  cases readHostPort scheme (t ++ portText port) with
  | error e => rfl
  | ok read => simp [bind, Except.bind]

/-- The host of an authority that is read comes from some part of the text. -/
lemma exists_of_readAuthority {hasTail : Bool} {authority : Authority} {path : List Char}
    (h : readAuthority scheme cs hasTail = .ok (authority, path)) :
    ∃ text, readHost (Kind.ofScheme scheme) text = .ok authority.host := by
  unfold readAuthority at h
  dsimp only at h
  split at h
  · cases h
  · obtain ⟨⟨host, port, rest⟩, hread, h⟩ := exists_of_bind h
    obtain ⟨text, htext⟩ := exists_of_readHostPort hread
    have hauthority := congrArg (fun read => read.1.host) (eq_of_ite h)
    exact ⟨text, htext.trans (congrArg Except.ok hauthority)⟩

end TrafficFeed.Url
