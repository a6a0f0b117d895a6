import Mathlib.Tactic.Lemma
import Mathlib.Tactic.SplitIfs
import TrafficFeed.Text.Base64

/-!
# Base64 read back

`decode` undoes `encode`, and reads nothing else: the texts it accepts are those that `encode`
writes.
-/

namespace TrafficFeed.Text.Base64

/-! ### The alphabet -/

lemma value?_symbol {n : Nat} (h : n < 64) : value? (symbol n) = some n := by
  have hall : ∀ m < 64, value? (symbol m) = some m := by decide
  exact hall n h

lemma symbol_ne_pad {n : Nat} (h : n < 64) : symbol n ≠ '=' := by
  have hall : ∀ m < 64, symbol m ≠ '=' := by decide
  exact hall n h

lemma of_value? {c : Char} {n : Nat} (h : value? c = some n) : n < 64 ∧ symbol n = c := by
  have hle : ∀ d : Char, (c ≤ d ↔ c.toNat ≤ d.toNat) ∧ (d ≤ c ↔ d.toNat ≤ c.toNat) := fun d =>
    ⟨UInt32.le_iff_toNat_le, UInt32.le_iff_toNat_le⟩
  have hc : ∀ m, m = c.toNat → Char.ofNat m = c := by
    rintro m rfl
    exact Char.ofNat_toNat c
  simp only [value?, hle, Char.reduceToNat] at h
  split_ifs at h with hupper hlower hdigit hplus hslash
  · obtain rfl := Option.some.inj h
    rw [symbol, if_pos (by omega)]
    exact ⟨by omega, hc _ (by omega)⟩
  · obtain rfl := Option.some.inj h
    rw [symbol, if_neg (by omega), if_pos (by omega)]
    exact ⟨by omega, hc _ (by omega)⟩
  · obtain rfl := Option.some.inj h
    rw [symbol, if_neg (by omega), if_neg (by omega), if_pos (by omega)]
    exact ⟨by omega, hc _ (by omega)⟩
  · obtain rfl := Option.some.inj h
    exact ⟨by decide, hplus.symm⟩
  · obtain rfl := Option.some.inj h
    exact ⟨by decide, hslash.symm⟩

/-! ### Octets -/

lemma ofNat_eq {n : Nat} {a : UInt8} (h : n = a.toNat) : UInt8.ofNat n = a := by
  rw [h, UInt8.ofNat_toNat]

lemma toNat_ofNat {n : Nat} (h : n < 256) : (UInt8.ofNat n).toNat = n :=
  UInt8.toNat_ofNat_of_lt' h

/-! ### Reading back -/

lemma decode_encode (bs : List UInt8) : decode (encode bs) = some bs := by
  fun_induction encode bs with
  | case1 a b c rest n ih =>
    have ha := a.toNat_lt
    have hb := b.toNat_lt
    have hc := c.toNat_lt
    rw [decode.eq_4 _ _ _ _ _ (fun _ hz => (symbol_ne_pad (by omega) hz).elim)
      (fun hz => (symbol_ne_pad (by omega) hz).elim)]
    simp (disch := omega) only [value?_symbol, ih, Option.bind_eq_bind, Option.bind_some]
    rw [ofNat_eq (a := a) (by omega), ofNat_eq (a := b) (by omega), ofNat_eq (a := c) (by omega)]
  | case2 a b n =>
    have ha := a.toNat_lt
    have hb := b.toNat_lt
    rw [decode.eq_3 _ _ _ (fun hy => (symbol_ne_pad (by omega) hy).elim)]
    simp (disch := omega) only [value?_symbol, Option.bind_eq_bind, Option.bind_some]
    rw [if_pos (by omega), ofNat_eq (a := a) (by omega), ofNat_eq (a := b) (by omega)]
  | case3 a n =>
    have ha := a.toNat_lt
    rw [decode.eq_2]
    simp (disch := omega) only [value?_symbol, Option.bind_eq_bind, Option.bind_some]
    rw [if_pos (by omega), ofNat_eq (a := a) (by omega)]
  | case4 => rfl

/-- Only the canonical form is read: padding and unused bits leave no second spelling. -/
lemma encode_of_decode {cs : List Char} {bs : List UInt8} (h : decode cs = some bs) :
    encode bs = cs := by
  fun_induction decode cs generalizing bs with
  | case1 =>
    obtain rfl := Option.some.inj h
    rfl
  | case2 w x =>
    simp only [Option.bind_eq_bind, Option.bind_eq_some_iff] at h
    obtain ⟨v, hw, u, hx, h⟩ := h
    obtain ⟨hv, rfl⟩ := of_value? hw
    obtain ⟨hu, rfl⟩ := of_value? hx
    split_ifs at h with hbits
    obtain rfl := Option.some.inj h
    have hn : (v * 64 + u) / 16 * 16 = v * 64 + u := by omega
    have hhigh : (v * 64 + u) / 64 = v := by omega
    have hlow : (v * 64 + u) % 64 = u := by omega
    simp only [encode]
    rw [toNat_ofNat (by omega), hn, hhigh, hlow]
  | case3 w x y hy =>
    simp only [Option.bind_eq_bind, Option.bind_eq_some_iff] at h
    obtain ⟨v, hw, u, hx, t, hy, h⟩ := h
    obtain ⟨hv, rfl⟩ := of_value? hw
    obtain ⟨hu, rfl⟩ := of_value? hx
    obtain ⟨ht, rfl⟩ := of_value? hy
    split_ifs at h with hbits
    obtain rfl := Option.some.inj h
    simp only [encode]
    rw [toNat_ofNat (by omega), toNat_ofNat (by omega)]
    have hn : ((v * 64 + u) * 64 + t) / 1024 * 1024 + ((v * 64 + u) * 64 + t) / 4 % 256 * 4 =
        (v * 64 + u) * 64 + t := by omega
    have hhigh : ((v * 64 + u) * 64 + t) / 4096 = v := by omega
    have hmid : ((v * 64 + u) * 64 + t) / 64 % 64 = u := by omega
    have hlow : ((v * 64 + u) * 64 + t) % 64 = t := by omega
    rw [hn, hhigh, hmid, hlow]
  | case4 w x y z rest _ _ ih =>
    simp only [Option.bind_eq_bind, Option.bind_eq_some_iff] at h
    obtain ⟨v, hw, u, hx, t, hy, r, hz, tail, hrest, h⟩ := h
    obtain ⟨hv, rfl⟩ := of_value? hw
    obtain ⟨hu, rfl⟩ := of_value? hx
    obtain ⟨ht, rfl⟩ := of_value? hy
    obtain ⟨hr, rfl⟩ := of_value? hz
    obtain rfl := Option.some.inj h
    simp only [encode]
    rw [toNat_ofNat (by omega), toNat_ofNat (by omega), toNat_ofNat (by omega)]
    generalize hm : ((v * 64 + u) * 64 + t) * 64 + r = m
    have hn : m / 65536 * 65536 + m / 256 % 256 * 256 + m % 256 = m := by omega
    have hv : m / 262144 = v := by omega
    have hu : m / 4096 % 64 = u := by omega
    have ht : m / 64 % 64 = t := by omega
    have hr : m % 64 = r := by omega
    rw [hn, hv, hu, ht, hr, ih hrest]
  | case5 => simp at h

lemma decode_eq_some_iff {cs : List Char} {bs : List UInt8} :
    decode cs = some bs ↔ cs = encode bs := by
  constructor
  · intro h
    exact (encode_of_decode h).symm
  · rintro rfl
    exact decode_encode bs

end TrafficFeed.Text.Base64
