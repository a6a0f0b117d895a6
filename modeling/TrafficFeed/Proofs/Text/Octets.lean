import Mathlib.Data.List.Basic
import Mathlib.Tactic.Lemma
import TrafficFeed.Text.Lossy

/-!
# Octets

Texts of ASCII characters have one octet for each character: they have the order of their octets,
and are read back from them.
-/

namespace TrafficFeed

open TrafficFeed.Text

/-- A text of ASCII characters. -/
def IsAscii (s : String) : Prop := ∀ c ∈ s.toList, c.toNat < 128

-- All characters make a finite type, over which nothing should be decided.
instance : DecidablePred IsAscii := fun s => List.decidableBAll _ s.toList

def octets (s : String) : List UInt8 := s.toUTF8.data.toList

lemma octets_eq_flatMap (s : String) : octets s = s.toList.flatMap String.utf8EncodeChar := by
  have hbytes : s.toUTF8 = s.toList.utf8Encode := by
    rw [String.toUTF8_eq_toByteArray, ← String.toByteArray_ofList, String.ofList_toList]
  rw [octets, hbytes]
  exact List.toList_data_toByteArray

lemma octets_eq_map {s : String} (h : IsAscii s) : octets s = s.toList.map (·.val.toUInt8) := by
  rw [octets_eq_flatMap, List.map_eq_flatMap]
  refine List.flatMap_congr fun c hc => String.utf8EncodeChar_eq_singleton ?_
  exact Char.utf8Size_eq_one_iff.mpr (Nat.le_of_lt_succ (h c hc))

lemma octet_lt {c d : Char} (hd : d.toNat < 128) (h : c < d) : c.val.toUInt8 < d.val.toUInt8 := by
  have hlt : c.toNat < d.toNat := h
  rw [UInt8.lt_iff_toNat_lt, UInt32.toNat_toUInt8, UInt32.toNat_toUInt8]
  change c.toNat % 256 < d.toNat % 256
  omega

/-- Texts of ASCII characters have the order of their octets. -/
lemma octets_lt {s t : String} (hs : IsAscii s) (ht : IsAscii t) (h : s.toList < t.toList) :
    octets s < octets t := by
  rw [octets_eq_map hs, octets_eq_map ht]
  unfold IsAscii at ht
  generalize s.toList = cs at h
  generalize t.toList = ds at h ht
  induction h with
  | nil => exact .nil
  | rel hlt => exact .rel (octet_lt (ht _ List.mem_cons_self) hlt)
  | cons _ ih => exact .cons (ih fun c hc => ht c (List.mem_cons_of_mem _ hc))

lemma octets_append (s t : String) : octets (s ++ t) = octets s ++ octets t := by
  simp [octets_eq_flatMap]

lemma foldl_step_ascii (read : List Char) {cs : List Char} (h : ∀ c ∈ cs, c.toNat < 128) :
    (cs.map fun c => c.val.toUInt8).foldl LossyState.step ⟨read, none⟩ =
      ⟨cs.reverse ++ read, none⟩ := by
  induction cs generalizing read with
  | nil => rfl
  | cons c cs ih =>
    have hc : c.toNat < 128 := h c List.mem_cons_self
    have hoctet : c.val.toUInt8.toNat = c.toNat := Nat.mod_eq_of_lt (Nat.lt_trans hc (by decide))
    have hbegin : beginWith read c.toNat = ⟨c :: read, none⟩ := by
      rw [beginWith, begin?, if_pos hc, Char.ofNat_toNat]
    have hstep : LossyState.step ⟨read, none⟩ c.val.toUInt8 = ⟨c :: read, none⟩ := by
      rw [LossyState.step, hoctet]
      exact hbegin
    rw [List.map_cons, List.foldl_cons, hstep, ih _ fun d hd => h d (List.mem_cons_of_mem _ hd)]
    simp

lemma lossyText_toUTF8 {s : String} (h : IsAscii s) : lossyText s.toUTF8 = s := by
  have hoctets : s.toUTF8.data.toList = _ := octets_eq_map h
  rw [lossyText, hoctets, foldl_step_ascii [] h]
  simp [LossyState.finish]

end TrafficFeed
