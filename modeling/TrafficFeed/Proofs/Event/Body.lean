import Mathlib.Algebra.Order.BigOperators.Group.List
import Mathlib.Tactic.Lemma
import TrafficFeed.Event.Describe
import TrafficFeed.Proofs.Event.Payload
import TrafficFeed.Proofs.Text.Base64

/-!
# Bodies

A detail shows a body as a text and a length. The text alone does not tell whether it is the body
or its Base64 form, as the form of one body can be the text of another. The length does: a form is
longer than what it stands for.
-/

namespace TrafficFeed

open TrafficFeed.Clock TrafficFeed.Text

/-! ### Reading a body back -/

/-- The octets that a text and a length stand for. -/
def recoverBody? (text : String) (length : Nat) : Option ByteArray :=
  if text.utf8ByteSize = length then some text.toUTF8
  else (Base64.decode text.toList).map fun bytes => ⟨bytes.toArray⟩

/-- The body shown by a detail with these members. -/
def Json.body? (v : Json) : Option ByteArray := do
  recoverBody? (← v.textAt? "body") (← v.natAt? UInt64.size "length")

/-- The body shown by the payload of an event. -/
def Event.body? (e : Event) : Option ByteArray :=
  (Json.parseBytes? e.payload.toUTF8).bind Json.body?

/-! ### UTF-8 -/

lemma fromUTF8?_toUTF8 (text : String) : String.fromUTF8? text.toUTF8 = some text := by
  rw [String.fromUTF8?, String.toUTF8_eq_toByteArray, dif_pos text.isValidUTF8]
  rfl

lemma toUTF8_of_fromUTF8? {body : ByteArray} {text : String}
    (h : String.fromUTF8? body = some text) : text.toUTF8 = body := by
  rw [String.fromUTF8?] at h
  split at h
  · obtain rfl := Option.some.inj h
    rfl
  · cases h

lemma length_le_utf8ByteSize (cs : List Char) : cs.length ≤ (String.ofList cs).utf8ByteSize := by
  have hsize : (String.ofList cs).utf8ByteSize = (cs.map Char.utf8Size).sum := by
    rw [String.utf8ByteSize, String.toByteArray_ofList]
    simp [List.utf8Encode]
  have hlength : (cs.map Char.utf8Size).length ≤ (cs.map Char.utf8Size).sum := by
    apply List.length_le_sum_of_one_le
    intro n hn
    obtain ⟨c, -, rfl⟩ := List.mem_map.mp hn
    exact c.utf8Size_pos
  rw [hsize]
  simpa using hlength

/-! ### The text of a body -/

lemma bodyText_toUTF8 (text : String) : bodyText text.toUTF8 = text := by
  rw [bodyText, fromUTF8?_toUTF8]

lemma bodyText_of_none {body : ByteArray} (h : String.fromUTF8? body = none) :
    bodyText body = String.ofList (Base64.encode body.data.toList) := by
  rw [bodyText, h]

lemma size_pos_of_none {body : ByteArray} (h : String.fromUTF8? body = none) : 0 < body.size := by
  rcases Nat.eq_zero_or_pos body.size with hsize | hsize
  · have hempty : body = "".toUTF8 := ByteArray.size_eq_zero_iff.mp hsize
    rw [hempty, fromUTF8?_toUTF8] at h
    cases h
  · exact hsize

/-- A Base64 form is longer than the octets it stands for. -/
lemma size_lt_bodyText {body : ByteArray} (h : String.fromUTF8? body = none) :
    body.size < (bodyText body).utf8ByteSize := by
  have hpos := size_pos_of_none h
  have hlength := length_le_utf8ByteSize (Base64.encode body.data.toList)
  have hsize : body.data.toList.length = body.size := rfl
  rw [Base64.length_encode, hsize] at hlength
  rw [bodyText_of_none h]
  omega

lemma toNat_bodyLength {body : ByteArray} (h : body.size < UInt64.size) :
    (bodyLength body).toNat = body.size :=
  UInt64.toNat_ofNat_of_lt' h

lemma recoverBody?_bodyText {body : ByteArray} (h : body.size < UInt64.size) :
    recoverBody? (bodyText body) (bodyLength body).toNat = some body := by
  rw [toNat_bodyLength h]
  cases htext : String.fromUTF8? body with
  | some text =>
    obtain rfl := toUTF8_of_fromUTF8? htext
    rw [bodyText_toUTF8]
    exact if_pos rfl
  | none =>
    have hlong := size_lt_bodyText htext
    rw [recoverBody?, if_neg hlong.ne', bodyText_of_none htext, String.toList_ofList,
      Base64.decode_encode]
    rfl

lemma fromUTF8?_eq_none {body : ByteArray} (h : ∀ text : String, text.toUTF8 ≠ body) :
    String.fromUTF8? body = none := by
  cases htext : String.fromUTF8? body with
  | some text => exact (h text (toUTF8_of_fromUTF8? htext)).elim
  | none => rfl

/-! ### Details -/

lemma body?_requestDetail (d : RequestDetail) :
    (Event.requestDetail d).body? = recoverBody? d.body d.length.toNat := by
  rw [Event.body?, Event.parseBytes?_payload]
  simp [Json.body?, Event.members, Json.textAt?, Json.natAt?, Json.lookup_cons]

lemma body?_responseDetail (d : ResponseDetail) :
    (Event.responseDetail d).body? = recoverBody? d.body d.length.toNat := by
  rw [Event.body?, Event.parseBytes?_payload]
  simp [Json.body?, Event.members, Json.textAt?, Json.natAt?, Json.lookup_cons]

/-- The payload of a detail gives back the body that was captured. The text is the body itself
where that is UTF-8, and elsewhere the one text that decodes to it; bodies share a text, but never
the text and the length. -/
theorem body_recovered :
    (∀ (r : Http.Request) (now : Instant) (c : Connection), r.body.size < UInt64.size →
      (Event.requestDetail ((r.captured now).detail c)).body? = some r.body) ∧
    (∀ (r : Http.Response) (c : Connection), r.body.size < UInt64.size →
      (Event.responseDetail (r.detail c)).body? = some r.body) ∧
    (∀ text : String, bodyText text.toUTF8 = text) ∧
    (∀ body : ByteArray, (∀ text : String, text.toUTF8 ≠ body) →
      ∀ cs, Base64.decode cs = some body.data.toList ↔ cs = (bodyText body).toList) ∧
    (∀ a b : ByteArray, a.size < UInt64.size → b.size < UInt64.size → a ≠ b →
      (bodyText a, bodyLength a) ≠ (bodyText b, bodyLength b)) ∧
    ∃ a b : ByteArray, a ≠ b ∧ bodyText a = bodyText b := by
  refine ⟨?request, ?response, bodyText_toUTF8, ?form, ?injective, ?shared⟩
  case request =>
    intro r now c hsize
    rw [body?_requestDetail]
    exact recoverBody?_bodyText hsize
  case response =>
    intro r c hsize
    rw [body?_responseDetail]
    exact recoverBody?_bodyText hsize
  case form =>
    intro body hbody cs
    rw [bodyText_of_none (fromUTF8?_eq_none hbody), String.toList_ofList]
    exact Base64.decode_eq_some_iff
  case injective =>
    intro a b ha hb hne heq
    obtain ⟨htext, hlength⟩ := Prod.mk.inj heq
    have hrecovered : some a = some b := by
      rw [← recoverBody?_bodyText ha, ← recoverBody?_bodyText hb, htext, hlength]
    exact hne (Option.some.inj hrecovered)
  case shared =>
    -- the form of one octet, and the four octets that spell it
    exact ⟨⟨#[0x80]⟩, "gA==".toUTF8, by decide, by decide⟩

/-- A flow with these bodies, the answer's with its content encoding removed. -/
def Flow.bearing (asked answered : ByteArray) : Flow :=
  { id := ⟨"F"⟩
    request :=
      { scheme := "http", host := "h", port := 80, method := "PUT", path := "/",
        version := Http.defaultVersion, headers := .empty, raw := asked, decoded := none,
        startedAt := none }
    response :=
      some { status := 200, reason := "OK", version := Http.defaultVersion, headers := .empty,
             raw := .empty, decoded := some answered }
    client := none
    server := none }

/-- Both bodies are shown as `gA==`, and told apart by their lengths. -/
theorem body_recovered_of_shared_text :
    let raw : ByteArray := ⟨#[0x80]⟩
    let spelt : ByteArray := "gA==".toUTF8
    let flow := Flow.bearing raw spelt
    let connection := flow.connection .epoch
    (Event.requestDetail ((flow.request.captured .epoch).detail connection)).body? = some raw ∧
    (∀ response ∈ flow.response,
      (Event.responseDetail (response.detail connection)).body? = some spelt) ∧
    bodyText spelt = "gA==" ∧
    (∀ cs, Base64.decode cs = some raw.data.toList ↔ cs = "gA==".toList) ∧
    (bodyText raw, bodyLength raw) ≠ (bodyText spelt, bodyLength spelt) := by
  intro raw spelt flow connection
  obtain ⟨hrequest, hresponse, htext, hform, hinjective, -⟩ := body_recovered
  refine ⟨?request, ?response, htext "gA==", ?form, ?pair⟩
  case request => exact hrequest flow.request .epoch connection (by decide)
  case response =>
    intro response hmem
    obtain rfl := Option.some.inj hmem
    exact hresponse _ connection (by decide)
  case form =>
    have hraw : ∀ text : String, text.toUTF8 ≠ raw := by
      intro text heq
      have hnone : String.fromUTF8? raw = none := by decide
      rw [← heq, fromUTF8?_toUTF8] at hnone
      cases hnone
    have htext : bodyText raw = "gA==" := by decide
    rw [← htext]
    exact hform raw hraw
  case pair => exact hinjective raw spelt (by decide) (by decide) (by decide)

end TrafficFeed
