import Mathlib.Tactic.Lemma
import TrafficFeed.Event
import TrafficFeed.Subscriber.Message
import TrafficFeed.Proofs.Json.Flat

/-!
# Payloads

The payload of an event is a flat object from which the event can be read back: each kind of event
has keys of its own, none of them twice, and under each stands the text or the number of one field.
-/

namespace TrafficFeed

/-! ### Reading an event back -/

namespace Json

/-- The value of a whole number below `bound`. -/
def asNat? (bound : Nat) : Json → Option Nat
  | .number (.int (.ofNat n)) => if n < bound then some n else none
  | _ => none

def textAt? (key : String) (v : Json) : Option String := (v.get? key).bind asText?

/-- The number below `bound` under a key. -/
def natAt? (bound : Nat) (key : String) (v : Json) : Option Nat := (v.get? key).bind (asNat? bound)

end Json

def Direction.ofWord? : String → Option Direction
  | "request" => some .request
  | "response" => some .response
  | _ => none

def SummaryKind.ofWord? : String → Option SummaryKind
  | "request" => some .request
  | "flow_info" => some .flowInfo
  | _ => none

namespace Connection

/-- The keys that a summary takes over from its connection. -/
def keys : List String :=
  ["timestamp", "src_ip", "src_port", "dst_ip", "dst_port", "protocol", "top_protocol",
    "http_version", "flow_id", "host"]

/-- Reads a connection off the members of a summary. -/
def ofJson? (v : Json) : Option Connection := do
  some
    { timestamp := ← v.textAt? "timestamp"
      srcIp := ← v.textAt? "src_ip"
      srcPort := .ofNat (← v.natAt? UInt16.size "src_port")
      dstIp := ← v.textAt? "dst_ip"
      dstPort := .ofNat (← v.natAt? UInt16.size "dst_port")
      protocol := ← v.textAt? "protocol"
      topProtocol := ← v.textAt? "top_protocol"
      httpVersion := ← v.textAt? "http_version"
      flowId := ⟨← v.textAt? "flow_id"⟩
      host := ← v.textAt? "host" }

end Connection

def RequestDetail.ofJson? (v : Json) : Option RequestDetail := do
  some
    { direction := ← Direction.ofWord? (← v.textAt? "direction")
      flowId := ⟨← v.textAt? "flow_id"⟩
      timestamp := ← v.textAt? "timestamp"
      topProtocol := ← v.textAt? "top_protocol"
      method := ← v.textAt? "method"
      path := ← v.textAt? "path"
      url := ← v.textAt? "url"
      headers := ← v.textAt? "headers"
      body := ← v.textAt? "body"
      length := .ofNat (← v.natAt? UInt64.size "length")
      contentType := ← v.textAt? "content_type" }

def ResponseDetail.ofJson? (v : Json) : Option ResponseDetail := do
  some
    { direction := ← Direction.ofWord? (← v.textAt? "direction")
      flowId := ⟨← v.textAt? "flow_id"⟩
      timestamp := ← v.textAt? "timestamp"
      topProtocol := ← v.textAt? "top_protocol"
      status := .ofNat (← v.natAt? UInt16.size "status")
      reason := ← v.textAt? "reason"
      headers := ← v.textAt? "headers"
      body := ← v.textAt? "body"
      length := .ofNat (← v.natAt? UInt64.size "length")
      contentType := ← v.textAt? "content_type" }

/-- Reads a summary; only here may a member be absent. -/
def FlowSummary.ofJson? (v : Json) : Option FlowSummary := do
  some
    { kind := ← SummaryKind.ofWord? (← v.textAt? "type")
      direction := ← Direction.ofWord? (← v.textAt? "direction")
      connection := ← Connection.ofJson? v
      method := ← v.textAt? "method"
      path := ← v.textAt? "path"
      url := ← v.textAt? "url"
      status := (v.natAt? UInt16.size "status").map UInt16.ofNat
      contentType := ← v.textAt? "content_type"
      info := ← v.textAt? "info" }

def PlainRequest.ofJson? (v : Json) : Option PlainRequest := do
  some
    { kind := ← v.textAt? "type"
      scheme := ← v.textAt? "scheme"
      host := ← v.textAt? "host"
      method := ← v.textAt? "method"
      path := ← v.textAt? "path"
      content := ← v.textAt? "content" }

def PlainResponse.ofJson? (v : Json) : Option PlainResponse := do
  some
    { kind := ← v.textAt? "type"
      scheme := ← v.textAt? "scheme"
      host := ← v.textAt? "host"
      status := .ofNat (← v.natAt? UInt16.size "status")
      content := ← v.textAt? "content" }

namespace Event

def keys : Event → List String
  | .requestDetail _ =>
    ["direction", "flow_id", "timestamp", "top_protocol", "method", "path", "url", "headers",
      "body", "length", "content_type"]
  | .responseDetail _ =>
    ["direction", "flow_id", "timestamp", "top_protocol", "status", "reason", "headers", "body",
      "length", "content_type"]
  | .summary s =>
    ["type", "direction"] ++ Connection.keys ++ ["method", "path", "url"] ++
      (if s.status.isSome then ["status"] else []) ++ ["content_type", "info"]
  | .plainRequest _ => ["type", "scheme", "host", "method", "path", "content"]
  | .plainResponse _ => ["type", "scheme", "host", "status", "content"]

/-- Reads an event, whose kind its keys decide: plain events alone have `content`, and details
alone are without `type`. -/
def ofJson? (v : Json) : Option Event :=
  if v.has "content" then
    if v.has "status" then (PlainResponse.ofJson? v).map .plainResponse
    else (PlainRequest.ofJson? v).map .plainRequest
  else if v.has "type" then (FlowSummary.ofJson? v).map .summary
  else if v.has "status" then (ResponseDetail.ofJson? v).map .responseDetail
  else (RequestDetail.ofJson? v).map .requestDetail

end Event

/-! ### Looking members up -/

namespace Json

/-- The members that follow are looked up first. -/
lemma lookup_cons (key : String) (m : String × Json) (ms : List (String × Json)) :
    lookup key (m :: ms) = (lookup key ms).or (if m.1 = key then some m.2 else none) := by
  by_cases h : m.1 = key <;> simp [lookup, List.find?_append, h]

@[simp] lemma get?_object (key : String) (members : List (String × Json)) :
    get? key (.object members) = lookup key members := rfl

@[simp] lemma asText?_text (s : String) : asText? (.text s) = some s := rfl

@[simp] lemma asNat?_ofNat16 (n : UInt16) : asNat? UInt16.size (.ofNat n.toNat) = some n.toNat :=
  if_pos n.toNat_lt_size

@[simp] lemma asNat?_ofNat64 (n : UInt64) : asNat? UInt64.size (.ofNat n.toNat) = some n.toNat :=
  if_pos n.toNat_lt_size

@[simp] lemma isScalar_text (s : String) : IsScalar (.text s) := .text s

@[simp] lemma isScalar_ofNat16 (n : UInt16) : IsScalar (.ofNat n.toNat) :=
  .ofNat _ (Nat.lt_trans n.toNat_lt_size (by decide))

@[simp] lemma isScalar_ofNat64 (n : UInt64) : IsScalar (.ofNat n.toNat) := .ofNat _ n.toNat_lt_size

end Json

@[simp] lemma Direction.ofWord?_word (d : Direction) : ofWord? d.word = some d := by
  cases d <;> rfl

@[simp] lemma SummaryKind.ofWord?_word (k : SummaryKind) : ofWord? k.word = some k := by
  cases k <;> rfl

namespace Event

/-! ### Members -/

lemma keys_members (e : Event) : e.members.map Prod.fst = e.keys := by
  cases e with
  | requestDetail d => rfl
  | responseDetail d => rfl
  | summary s => cases h : s.status <;> simp [members, keys, Connection.members, Connection.keys, h]
  | plainRequest r => rfl
  | plainResponse r => rfl

/-- The keys of a summary and those that it takes over from its connection are different. -/
lemma nodup_keys (e : Event) : e.keys.Nodup := by
  cases e with
  | requestDetail d => simp [keys]
  | responseDetail d => simp [keys]
  | summary s => cases h : s.status <;> simp [keys, Connection.keys, h]
  | plainRequest r => simp [keys]
  | plainResponse r => simp [keys]

lemma isScalar_members (e : Event) : ∀ m ∈ e.members, m.2.IsScalar := by
  cases e with
  | requestDetail d => simp [members]
  | responseDetail d => simp [members]
  | summary s => cases h : s.status <;> simp [members, Connection.members, h]
  | plainRequest r => simp [members]
  | plainResponse r => simp [members]

lemma ofJson?_members (e : Event) : ofJson? (.object e.members) = some e := by
  cases e with
  | requestDetail d =>
    simp [ofJson?, RequestDetail.ofJson?, members, Json.has, Json.textAt?, Json.natAt?,
      Json.lookup_cons]
  | responseDetail d =>
    simp [ofJson?, ResponseDetail.ofJson?, members, Json.has, Json.textAt?, Json.natAt?,
      Json.lookup_cons]
  | summary s =>
    obtain ⟨kind, direction, connection, method, path, url, status, contentType, info⟩ := s
    cases status <;> simp [ofJson?, FlowSummary.ofJson?, members, Connection.ofJson?,
      Connection.members, Json.has, Json.textAt?, Json.natAt?, Json.lookup_cons]
  | plainRequest r =>
    simp [ofJson?, PlainRequest.ofJson?, members, Json.has, Json.textAt?, Json.lookup_cons]
  | plainResponse r =>
    simp [ofJson?, PlainResponse.ofJson?, members, Json.has, Json.textAt?, Json.natAt?,
      Json.lookup_cons]

/-! ### The payload -/

lemma parseBytes?_payload (e : Event) :
    Json.parseBytes? e.payload.toUTF8 = some (.object e.members) :=
  Json.parseBytes?_render e.isScalar_members

/-- Every payload is the flat object of its event's fields, each under a key of its own, and no two
events have the same payload. Among the keys, `type` is missing from details alone and `status`
from the summaries without one. -/
theorem payload_faithful :
    (∀ e : Event, Json.parseBytes? e.payload.toUTF8 = some (.object e.members) ∧
      (∀ m ∈ e.members, m.2.IsScalar) ∧ e.members.map Prod.fst = e.keys ∧ e.keys.Nodup ∧
      ofJson? (.object e.members) = some e ∧
      ("type" ∉ e.keys ↔ (∃ d, e = .requestDetail d) ∨ ∃ d, e = .responseDetail d)) ∧
    (∀ s : FlowSummary, "status" ∉ (Event.summary s).keys ↔ s.status = none) ∧
    Function.Injective fun e : Event => e.payload.toUTF8 := by
  refine ⟨?fields, ?status, ?injective⟩
  case fields =>
    intro e
    refine ⟨e.parseBytes?_payload, e.isScalar_members, e.keys_members, e.nodup_keys,
      e.ofJson?_members, ?_⟩
    cases e <;> simp [keys]
  case status =>
    intro s
    cases h : s.status <;> simp [keys, Connection.keys, h]
  case injective =>
    intro e f h
    have hmembers : some (Json.object e.members) = some (.object f.members) := by
      rw [← e.parseBytes?_payload, ← f.parseBytes?_payload]
      exact congrArg Json.parseBytes? h
    have hevents := congrArg (Option.bind · ofJson?) hmembers
    simpa [ofJson?_members] using hevents

end Event

end TrafficFeed
