import TrafficFeed.Event.Describe
import TrafficFeed.Proofs.Event.Payload

/-!
# Recognition

A subscriber that is given the payload of an event takes it for an event of the same kind, and finds
in it the texts that the event was made of.
-/

namespace TrafficFeed

open TrafficFeed.Clock TrafficFeed.Http

namespace Message

/-- What the octets of a message are; `none` if they cannot be read. -/
def ofBytes? (bytes : ByteArray) : Option Message := (Json.parseBytes? bytes).map classify

lemma ofBytes?_payload (e : Event) :
    ofBytes? e.payload.toUTF8 = some (classify (.object e.members)) := by
  rw [ofBytes?, e.parseBytes?_payload, Option.map_some]

/-! ### Kinds of events -/

lemma asInt64?_ofNat16 (n : UInt16) : Json.asInt64? (.ofNat n.toNat) = some n.toNat := by
  have hn : n.toNat < 65536 := n.toNat_lt_size
  have hmin : Int64.minValue.toInt ≤ (n.toNat : Int) := by
    rw [show Int64.minValue.toInt = -9223372036854775808 from rfl]
    omega
  have hmax : (n.toNat : Int) ≤ Int64.maxValue.toInt := by
    rw [show Int64.maxValue.toInt = 9223372036854775807 from rfl]
    omega
  exact if_pos ⟨hmin, hmax⟩

/-- A detail has no `type`, and is known by its headers and body. -/
lemma classify_requestDetail (d : RequestDetail) :
    classify (.object (Event.requestDetail d).members) =
      .detail d.direction.word d.flowId.text := by
  simp [classify, Event.members, Json.has, Json.textAt, Json.lookup_cons]

lemma classify_responseDetail (d : ResponseDetail) :
    classify (.object (Event.responseDetail d).members) =
      .detail d.direction.word d.flowId.text := by
  simp [classify, Event.members, Json.has, Json.textAt, Json.lookup_cons]

/-- The summary of a request shares its `type` with the plain event of one, but has no `content`. -/
lemma classify_summary (s : FlowSummary) :
    classify (.object (Event.summary s).members) =
      match s.kind with
      | .request => .request s.method s.url
      | .flowInfo => .flowInfo s.connection.flowId.text s.info := by
  obtain ⟨kind, direction, connection, method, path, url, status, contentType, info⟩ := s
  cases kind <;> cases status <;>
    simp [classify, Event.members, Connection.members, SummaryKind.word, Json.has, Json.textAt,
      Json.lookup_cons]

lemma classify_plainRequest {r : PlainRequest} (h : r.kind = "request") :
    classify (.object (Event.plainRequest r).members) =
      .plainRequest r.method (r.host ++ r.path) := by
  simp [classify, Event.members, h, Json.has, Json.textAt, Json.lookup_cons]

lemma classify_plainResponse {r : PlainResponse} (h : r.kind = "response") :
    classify (.object (Event.plainResponse r).members) = .plainResponse r.status.toNat r.host := by
  simp [classify, Event.members, h, Json.textAt, Json.lookup_cons, asInt64?_ofNat16]

/-! ### Events of a flow -/

/-- Every event that is made of a flow is taken by the subscriber for what it is, whatever was
captured: the request and the response with or without a remembered request, in either schema. -/
theorem ofBytes?_payload_of_flow (flow : Flow) (now : Instant) (response : Response)
    (found : Option CapturedRequest) :
    let connection := flow.connection now
    let captured := flow.request.captured now
    let heard (e : Event) := ofBytes? e.payload.toUTF8
    heard (.requestDetail (captured.detail connection)) = some (.detail "request" flow.id.text) ∧
    heard (.summary (captured.summary connection)) =
      some (.request flow.request.method flow.request.url) ∧
    heard (.summary (response.summary connection found)) =
      some (.flowInfo flow.id.text (response.info connection.httpVersion)) ∧
    heard (.responseDetail (response.detail connection)) =
      some (.detail "response" flow.id.text) ∧
    heard (.plainRequest flow.request.plain) =
      some (.plainRequest flow.request.method (flow.request.host ++ flow.request.path)) ∧
    heard (.plainResponse (response.plain flow.request)) =
      some (.plainResponse response.status.toNat flow.request.host) := by
  intro connection captured heard
  refine ⟨?requestDetail, ?request, ?flowInfo, ?responseDetail, ?plainRequest, ?plainResponse⟩ <;>
    simp only [heard, ofBytes?_payload]
  case requestDetail => rw [classify_requestDetail]; rfl
  case request => rw [classify_summary]; rfl
  case flowInfo => rw [classify_summary]; rfl
  case responseDetail => rw [classify_responseDetail]; rfl
  case plainRequest => rw [classify_plainRequest rfl]; rfl
  case plainResponse => rw [classify_plainResponse rfl]; rfl

end Message

end TrafficFeed
