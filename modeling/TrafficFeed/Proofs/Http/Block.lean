import TrafficFeed.Http.Headers
import TrafficFeed.Proofs.Text.Cut

/-!
# Header blocks

A block is cut back into its entries at the line feeds, and each line into name and value at its
first mark, unless an entry holds a line feed or a name holds the mark. So a name may as well be
looked up in the block.
-/

namespace TrafficFeed.Http.Headers

open TrafficFeed.Text

/-! ### Reading a block back -/

/-- The entry of a line. -/
def header? (line : List Char) : Option (String × String) :=
  (splitLine? line).map fun parts => (String.ofList parts.1, String.ofList parts.2)

/-- The list that a block stands for. The empty text has no lines. -/
def ofBlock? (block : String) : Option Headers :=
  if block = "" then some empty else ((cut '\n' block.toList).mapM header?).map Headers.mk

/-- The value in the first line of a block whose name is the given one, in whatever letters. -/
def findInBlock? (block name : String) : Option String :=
  (((cut '\n' block.toList).filterMap header?).find? fun e => sameLetters e.1 name).map Prod.snd

/-- An entry that can be told from its line, and its line from those around it. -/
structure Separable (e : String × String) : Prop where
  name : '\n' ∉ e.1.toList
  value : '\n' ∉ e.2.toList
  mark : ¬ [':', ' '] <:+: e.1.toList

variable {hs : Headers} {e : String × String}

/-! ### Lines -/

lemma toList_line (e : String × String) :
    (line e).toList = e.1.toList ++ ':' :: ' ' :: e.2.toList := by
  simp [line]

lemma Separable.header?_line (h : Separable e) : header? (line e).toList = some e := by
  rw [header?, toList_line, splitLine?_mark h.mark, Option.map_some, String.ofList_toList,
    String.ofList_toList]

lemma Separable.newline_notMem_line (h : Separable e) : '\n' ∉ (line e).toList := by
  simp [toList_line, h.name, h.value]

/-! ### Blocks -/

lemma toList_toBlock (hs : Headers) :
    hs.toBlock.toList = ['\n'].intercalate (hs.entries.map fun e => (line e).toList) := by
  simp [toBlock, Function.comp_def]

/-- Even an entry with an empty name and an empty value has a line that is not empty. -/
lemma toBlock_eq_empty_iff : hs.toBlock = "" ↔ hs = empty := by
  obtain ⟨entries⟩ := hs
  constructor
  · intro h
    have hlist := congrArg String.toList h
    rw [toList_toBlock] at hlist
    cases entries with
    | nil => rfl
    | cons e es =>
      have hmark : ':' ∈ ['\n'].intercalate ((e :: es).map fun e => (line e).toList) := by
        cases es <;> simp [toList_line]
      rw [hlist] at hmark
      exact absurd hmark List.not_mem_nil
  · intro h
    rw [h]
    rfl

lemma cut_toBlock (hne : hs ≠ empty) (h : ∀ e ∈ hs.entries, Separable e) :
    cut '\n' hs.toBlock.toList = hs.entries.map fun e => (line e).toList := by
  rw [toList_toBlock]
  refine cut_intercalate ?nonempty ?apart
  case nonempty =>
    intro hnil
    exact hne (congrArg Headers.mk (List.map_eq_nil_iff.mp hnil))
  case apart =>
    intro part hpart
    obtain ⟨e, he, rfl⟩ := List.mem_map.mp hpart
    exact (h e he).newline_notMem_line

lemma mapM_header? (h : ∀ e ∈ hs.entries, Separable e) :
    (hs.entries.map fun e => (line e).toList).mapM header? = some hs.entries := by
  rw [mapM_eq_some_iff, List.forall₂_map_left_iff, List.forall₂_same]
  exact fun e he => (h e he).header?_line

/-- The one line of the empty block has no mark. -/
lemma filterMap_header? (h : ∀ e ∈ hs.entries, Separable e) :
    (cut '\n' hs.toBlock.toList).filterMap header? = hs.entries := by
  by_cases hempty : hs = empty
  · rw [hempty]
    rfl
  · rw [cut_toBlock hempty h, List.filterMap_map]
    calc hs.entries.filterMap (header? ∘ fun e => (line e).toList)
        = hs.entries.filterMap some := List.filterMap_congr fun e he => (h e he).header?_line
      _ = hs.entries := List.filterMap_some

/-- A header list is read back from its block in its order and its letters, repeated names and
empty texts included; the empty block is that of the empty list alone; and a name is found in the
block as it is in the list. -/
theorem ofBlock?_toBlock (hs : Headers) (h : ∀ e ∈ hs.entries, Separable e) :
    ofBlock? hs.toBlock = some hs ∧ (hs.toBlock = "" ↔ hs = empty) ∧
      ∀ name, findInBlock? hs.toBlock name = hs.get? name := by
  refine ⟨?list, toBlock_eq_empty_iff, ?find⟩
  case list =>
    by_cases hempty : hs = empty
    · rw [ofBlock?, if_pos (toBlock_eq_empty_iff.mpr hempty), hempty]
    · rw [ofBlock?, if_neg (mt toBlock_eq_empty_iff.mp hempty), cut_toBlock hempty h,
        mapM_header? h, Option.map_some]
  case find =>
    intro name
    rw [findInBlock?, filterMap_header? h, get?]

/-- Names with colons in front and at the end, one in other letters, and nothing but empty texts. -/
theorem ofBlock?_toBlock_of_colons :
    let hs : Headers := ⟨[(":authority", "h"), ("X:", ": "), ("", ""), ("x:", "2")]⟩
    (∀ e ∈ hs.entries, Separable e) ∧ hs.toBlock = ":authority: h\nX:: : \n: \nx:: 2" ∧
      ofBlock? hs.toBlock = some hs ∧ findInBlock? hs.toBlock "x:" = some ": " := by
  intro hs
  have hentries : ∀ e ∈ hs.entries, Separable e := by
    intro e he
    simp only [hs, List.mem_cons, List.not_mem_nil, or_false] at he
    rcases he with rfl | rfl | rfl | rfl <;> exact ⟨by simp, by simp, by simp [List.infix_cons_iff]⟩
  obtain ⟨hlist, -, hfind⟩ := ofBlock?_toBlock hs hentries
  have hblock : hs.toBlock = ":authority: h\nX:: : \n: \nx:: 2" := by
    rw [← String.toList_inj, toList_toBlock]
    simp [hs, toList_line]
  refine ⟨hentries, hblock, hlist, (hfind "x:").trans ?_⟩
  simp [hs, get?_cons, sameLetters, ← String.toList_inj]

end TrafficFeed.Http.Headers
