import Mathlib.Logic.ExistsUnique
import Mathlib.Tactic.Lemma
import TrafficFeed.Json.Parser
import TrafficFeed.Subscriber.Message

/-!
# Discriminators

Messages are to be told apart by the text under `type`, or by headers and a body where there is no
`type`. A subscriber keeps to this with one exception. It does not tell a `type` that is no text
from one that is missing: with headers and a body, the message is taken for a detail.
-/

namespace TrafficFeed

namespace Json

/-- The keys of an object. Any other value has none. -/
def keys : Json → List String
  | .object members => members.map Prod.fst
  | _ => []

/-- A value stands under a key of an object: in the last member that has the key. -/
def Holds (v : Json) (key : String) (x : Json) : Prop :=
  ∃ before after, v = .object (before ++ (key, x) :: after) ∧ key ∉ after.map Prod.fst

variable {v x : Json} {key : String} {members : List (String × Json)}

/-! ### Looking up -/

lemma lookup_eq_none_iff : lookup key members = none ↔ key ∉ members.map Prod.fst := by
  simp only [lookup, Option.map_eq_none_iff, List.find?_eq_none, List.mem_reverse, beq_iff_eq,
    List.mem_map, not_exists, not_and]

lemma lookup_eq_some_iff :
    lookup key members = some x ↔ ∃ before after,
      members = before ++ (key, x) :: after ∧ key ∉ after.map Prod.fst := by
  constructor
  · intro h
    obtain ⟨⟨k, x⟩, hfind, rfl⟩ := Option.map_eq_some_iff.mp h
    obtain ⟨hkey, after, before, hmembers, hafter⟩ := List.find?_eq_some_iff_append.mp hfind
    obtain rfl : k = key := by simpa using hkey
    refine ⟨before.reverse, after.reverse, ?_, ?_⟩
    · rw [← List.reverse_reverse members, hmembers]
      simp
    · intro hmem
      obtain ⟨m, hm, heq⟩ := List.mem_map.mp hmem
      have hne := hafter m (List.mem_reverse.mp hm)
      simp [heq] at hne
  · rintro ⟨before, after, rfl, hafter⟩
    have hnone : lookup key after = none := lookup_eq_none_iff.mpr hafter
    rw [lookup, Option.map_eq_none_iff] at hnone
    simp [lookup, List.find?_append, hnone]

lemma get?_eq_some_iff : v.get? key = some x ↔ v.Holds key x := by
  cases v with
  | object members =>
    rw [get?, lookup_eq_some_iff]
    simp only [Holds, Json.object.injEq]
  | _ => simp [get?, Holds]

lemma get?_eq_none_iff : v.get? key = none ↔ key ∉ v.keys := by
  cases v with
  | object members => exact lookup_eq_none_iff
  | _ => simp [get?, keys]

lemma has_iff : v.has key = true ↔ key ∈ v.keys := by
  rw [has, Option.isSome_iff_ne_none, Ne, get?_eq_none_iff, Decidable.not_not]

lemma Holds.mem_keys (h : v.Holds key x) : key ∈ v.keys := by
  obtain ⟨before, after, rfl, -⟩ := h
  simp [keys]

lemma Holds.unique {y : Json} (hx : v.Holds key x) (hy : v.Holds key y) : x = y := by
  rw [← get?_eq_some_iff] at hx hy
  exact Option.some.inj (hx.symm.trans hy)

lemma asText?_eq_none_iff : x.asText? = none ↔ ∀ s, x ≠ .text s := by
  cases x <;> simp [asText?]

lemma asText?_eq_some_iff {s : String} : x.asText? = some s ↔ x = .text s := by
  cases x <;> simp [asText?]

end Json

namespace Message

open Json

/-- What a value is to be taken for. -/
inductive Told (v : Json) : Message → Prop where
  | plainRequest (htype : v.Holds "type" (.text "request")) (hcontent : "content" ∈ v.keys) :
      Told v (.plainRequest (v.textAt "method") (v.textAt "host" ++ v.textAt "path"))
  | request (htype : v.Holds "type" (.text "request")) (hcontent : "content" ∉ v.keys) :
      Told v (.request (v.textAt "method") (v.textAt "url"))
  | plainResponse (htype : v.Holds "type" (.text "response")) :
      Told v (.plainResponse (((v.get? "status").bind asInt64?).getD 0) (v.textAt "host"))
  | flowInfo (htype : v.Holds "type" (.text "flow_info")) :
      Told v (.flowInfo (v.textAt "flow_id") (v.textAt "info"))
  | detail (htype : "type" ∉ v.keys) (hheaders : "headers" ∈ v.keys) (hbody : "body" ∈ v.keys) :
      Told v (.detail (v.textAt "direction") (v.textAt "flow_id"))
  /-- A `type` of any other value, whatever else there is. -/
  | strange {x : Json} (htype : v.Holds "type" x) (hrequest : x ≠ .text "request")
      (hresponse : x ≠ .text "response") (hinfo : x ≠ .text "flow_info") : Told v .unknown
  /-- Neither a `type` nor what makes a detail; so with any value that is no object. -/
  | bare (htype : "type" ∉ v.keys) (hparts : "headers" ∉ v.keys ∨ "body" ∉ v.keys) :
      Told v .unknown

/-- Headers and a body, and a `type` that is no text. -/
structure Mistyped (v : Json) : Prop where
  type : ∃ x, v.Holds "type" x ∧ ∀ s, x ≠ .text s
  headers : "headers" ∈ v.keys
  body : "body" ∈ v.keys

variable {v : Json} {m : Message}

/-! ### Telling a message -/

/-- Every value is told to be something. -/
lemma exists_told (v : Json) : ∃ m, Told v m := by
  cases hget : v.get? "type" with
  | none =>
    have htype : "type" ∉ v.keys := get?_eq_none_iff.mp hget
    by_cases hparts : "headers" ∈ v.keys ∧ "body" ∈ v.keys
    · exact ⟨_, .detail htype hparts.1 hparts.2⟩
    · exact ⟨_, .bare htype (Decidable.not_and_iff_not_or_not.mp hparts)⟩
  | some x =>
    have htype : v.Holds "type" x := get?_eq_some_iff.mp hget
    by_cases hrequest : x = .text "request"
    · subst hrequest
      by_cases hcontent : "content" ∈ v.keys
      · exact ⟨_, .plainRequest htype hcontent⟩
      · exact ⟨_, .request htype hcontent⟩
    by_cases hresponse : x = .text "response"
    · subst hresponse
      exact ⟨_, .plainResponse htype⟩
    by_cases hinfo : x = .text "flow_info"
    · subst hinfo
      exact ⟨_, .flowInfo htype⟩
    exact ⟨_, .strange htype hrequest hresponse hinfo⟩

/-- Without a text under `type`, headers and a body decide. -/
lemma classify_of_no_text (htype : ∀ s, ¬ v.Holds "type" (.text s)) :
    classify v = if "headers" ∈ v.keys ∧ "body" ∈ v.keys
      then .detail (v.textAt "direction") (v.textAt "flow_id") else .unknown := by
  have hget : (v.get? "type").bind asText? = none := by
    rw [Option.bind_eq_none_iff]
    intro x hx
    rw [asText?_eq_none_iff]
    rintro s rfl
    exact htype s (get?_eq_some_iff.mp hx)
  unfold classify
  rw [hget]
  simp only [Bool.and_eq_true, has_iff]

lemma classify_of_notMem (htype : "type" ∉ v.keys) :
    classify v = if "headers" ∈ v.keys ∧ "body" ∈ v.keys
      then .detail (v.textAt "direction") (v.textAt "flow_id") else .unknown :=
  classify_of_no_text fun _ hs => htype hs.mem_keys

lemma Mistyped.classify_eq (h : Mistyped v) :
    classify v = .detail (v.textAt "direction") (v.textAt "flow_id") := by
  obtain ⟨x, hx, htext⟩ := h.type
  rw [classify_of_no_text fun s hs => htext s (hx.unique hs), if_pos ⟨h.headers, h.body⟩]

lemma Mistyped.eq_unknown (h : Mistyped v) (hm : Told v m) : m = .unknown := by
  obtain ⟨x, hx, htext⟩ := h.type
  cases hm with
  | plainRequest htype | request htype | plainResponse htype | flowInfo htype =>
    exact (htext _ (hx.unique htype)).elim
  | detail htype => exact (htype hx.mem_keys).elim
  | strange | bare => rfl

/-- A value is taken for what it is told to be, but for a `type` that is no text. -/
lemma Told.classify_eq (h : Told v m) (hv : ¬ Mistyped v) : classify v = m := by
  cases h with
  | plainRequest htype hcontent =>
    simp [classify, get?_eq_some_iff.mpr htype, asText?, has_iff.mpr hcontent]
  | request htype hcontent =>
    rw [← has_iff, Bool.not_eq_true] at hcontent
    simp [classify, get?_eq_some_iff.mpr htype, asText?, hcontent]
  | plainResponse htype => simp [classify, get?_eq_some_iff.mpr htype, asText?]
  | flowInfo htype => simp [classify, get?_eq_some_iff.mpr htype, asText?]
  | detail htype hheaders hbody => rw [classify_of_notMem htype, if_pos ⟨hheaders, hbody⟩]
  | bare htype hparts =>
    rw [classify_of_notMem htype, if_neg (Decidable.not_and_iff_not_or_not.mpr hparts)]
  | @strange x htype hrequest hresponse hinfo =>
    cases hx : x.asText? with
    | none =>
      rw [asText?_eq_none_iff] at hx
      rw [classify_of_no_text fun s hs => hx s (htype.unique hs), if_neg]
      exact fun hparts => hv ⟨⟨x, htype, hx⟩, hparts.1, hparts.2⟩
    | some word =>
      have hget : (v.get? "type").bind asText? = some word := by
        rw [get?_eq_some_iff.mpr htype]
        exact hx
      obtain rfl := asText?_eq_some_iff.mp hx
      unfold classify
      rw [hget]
      split <;> simp_all

lemma Told.unique {n : Message} (hm : Told v m) (hn : Told v n) : m = n := by
  by_cases hv : Mistyped v
  · rw [hv.eq_unknown hm, hv.eq_unknown hn]
  · rw [← hm.classify_eq hv, ← hn.classify_eq hv]

/-- Every value is told to be one thing, and is taken for it unless it has headers, a body and a
`type` that is no text. These are the values that are told to be unknown and taken for details. -/
theorem told_classify_iff (v : Json) :
    (∃! m, Told v m) ∧ (Told v (classify v) ↔ ¬ Mistyped v) ∧
      (Mistyped v ↔ Told v .unknown ∧
        classify v = .detail (v.textAt "direction") (v.textAt "flow_id")) := by
  obtain ⟨m, hm⟩ := exists_told v
  refine ⟨⟨m, hm, fun n hn => hn.unique hm⟩, ?taken, ?mistyped⟩
  case taken =>
    constructor
    · intro htold hv
      have hunknown := hv.eq_unknown htold
      rw [hv.classify_eq] at hunknown
      cases hunknown
    · intro hv
      rw [hm.classify_eq hv]
      exact hm
  case mistyped =>
    constructor
    · intro hv
      obtain rfl := hv.eq_unknown hm
      exact ⟨hm, hv.classify_eq⟩
    · rintro ⟨htold, hdetail⟩
      by_cases hv : Mistyped v
      · exact hv
      · rw [htold.classify_eq hv] at hdetail
        cases hdetail

/-- A message whose `type` is null has a `type`, and is taken for a detail. -/
theorem exists_typed_detail :
    ∃ v, Json.parse? ("\x7b\"type\":null,\"direction\":\"request\",\"flow_id\":\"F1\"," ++
        "\"headers\":\"\",\"body\":\"\"\x7d") = some v ∧
      "type" ∈ v.keys ∧ Told v .unknown ∧ classify v = .detail "request" "F1" := by
  let rest := [("direction", Json.text "request"), ("flow_id", .text "F1"),
    ("headers", .text ""), ("body", .text "")]
  have htype : (Json.object (("type", .null) :: rest)).Holds "type" .null :=
    ⟨[], rest, rfl, by decide⟩
  have hstrange : Told (.object (("type", .null) :: rest)) .unknown :=
    .strange htype Json.noConfusion Json.noConfusion Json.noConfusion
  exact ⟨_, rfl, htype.mem_keys, hstrange, rfl⟩

end Message

end TrafficFeed
