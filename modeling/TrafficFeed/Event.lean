import TrafficFeed.Flow
import TrafficFeed.Json.Printer

/-!
# Events

What is published about a flow. Every event is one flat object of texts and numbers. A summary
and a plain event bear their kind in the member `type`; a detail has no such member and is known
by its headers and body.
-/

namespace TrafficFeed

/-- The side of the exchange that an event describes. -/
inductive Direction where
  | request
  | response
  deriving DecidableEq, Repr

def Direction.word : Direction → String
  | .request => "request"
  | .response => "response"

/-- The occasion of a summary: the capture of a request, or that of a response. -/
inductive SummaryKind where
  | request
  | flowInfo
  deriving DecidableEq, Repr

def SummaryKind.word : SummaryKind → String
  | .request => "request"
  | .flowInfo => "flow_info"

/-- What is known of the connection at a capture. -/
structure Connection where
  timestamp : String
  srcIp : String
  srcPort : UInt16
  dstIp : String
  dstPort : UInt16
  protocol : String
  topProtocol : String
  httpVersion : String
  flowId : FlowId
  host : String
  deriving DecidableEq, Repr

/-- The request as it is remembered until its response arrives. -/
structure CapturedRequest where
  method : String
  path : String
  url : String
  headers : String
  body : String
  length : UInt64
  contentType : String
  timestamp : String
  topProtocol : String
  deriving DecidableEq, Repr

def CapturedRequest.members (r : CapturedRequest) : List (String × Json) :=
  [("method", .text r.method), ("path", .text r.path), ("url", .text r.url),
    ("headers", .text r.headers), ("body", .text r.body), ("length", .ofNat r.length.toNat),
    ("content_type", .text r.contentType), ("timestamp", .text r.timestamp),
    ("top_protocol", .text r.topProtocol)]

/-- All of the request side. `length` counts the octets of the body before it became text. -/
structure RequestDetail where
  direction : Direction
  flowId : FlowId
  timestamp : String
  topProtocol : String
  method : String
  path : String
  url : String
  headers : String
  body : String
  length : UInt64
  contentType : String
  deriving DecidableEq, Repr

/-- All of the response side. -/
structure ResponseDetail where
  direction : Direction
  flowId : FlowId
  timestamp : String
  topProtocol : String
  status : UInt16
  reason : String
  headers : String
  body : String
  length : UInt64
  contentType : String
  deriving DecidableEq, Repr

/-- A flow in one line, with what is known of its connection. -/
structure FlowSummary where
  kind : SummaryKind
  direction : Direction
  connection : Connection
  method : String
  path : String
  url : String
  status : Option UInt16
  contentType : String
  info : String
  deriving DecidableEq, Repr

structure PlainRequest where
  kind : String
  scheme : String
  host : String
  method : String
  path : String
  content : String
  deriving DecidableEq, Repr

structure PlainResponse where
  kind : String
  scheme : String
  host : String
  status : UInt16
  content : String
  deriving DecidableEq, Repr

/-- An event, ready to be queued and published. -/
inductive Event where
  | requestDetail (d : RequestDetail)
  | responseDetail (d : ResponseDetail)
  | summary (s : FlowSummary)
  | plainRequest (r : PlainRequest)
  | plainResponse (r : PlainResponse)
  deriving DecidableEq, Repr

namespace Event

/-- The short name of an event in logs. -/
def label : Event → String
  | .requestDetail _ => "request_detail"
  | .responseDetail _ => "response_detail"
  | .summary s => s.kind.word
  | .plainRequest _ => "legacy_request"
  | .plainResponse _ => "legacy_response"

/-- The flow an event belongs to; a plain event names none. -/
def flowId? : Event → Option FlowId
  | .requestDetail d => some d.flowId
  | .responseDetail d => some d.flowId
  | .summary s => some s.connection.flowId
  | .plainRequest _ => none
  | .plainResponse _ => none

end Event

/-- The members that a summary takes over from its connection. -/
def Connection.members (c : Connection) : List (String × Json) :=
  [("timestamp", .text c.timestamp), ("src_ip", .text c.srcIp),
    ("src_port", .ofNat c.srcPort.toNat), ("dst_ip", .text c.dstIp),
    ("dst_port", .ofNat c.dstPort.toNat), ("protocol", .text c.protocol),
    ("top_protocol", .text c.topProtocol), ("http_version", .text c.httpVersion),
    ("flow_id", .text c.flowId.text), ("host", .text c.host)]

namespace Event

/-- The members of an event in the order in which they are published. -/
def members : Event → List (String × Json)
  | .requestDetail d =>
    [("direction", .text d.direction.word), ("flow_id", .text d.flowId.text),
      ("timestamp", .text d.timestamp), ("top_protocol", .text d.topProtocol),
      ("method", .text d.method), ("path", .text d.path), ("url", .text d.url),
      ("headers", .text d.headers), ("body", .text d.body), ("length", .ofNat d.length.toNat),
      ("content_type", .text d.contentType)]
  | .responseDetail d =>
    [("direction", .text d.direction.word), ("flow_id", .text d.flowId.text),
      ("timestamp", .text d.timestamp), ("top_protocol", .text d.topProtocol),
      ("status", .ofNat d.status.toNat), ("reason", .text d.reason),
      ("headers", .text d.headers), ("body", .text d.body), ("length", .ofNat d.length.toNat),
      ("content_type", .text d.contentType)]
  | .summary s =>
    [("type", .text s.kind.word), ("direction", .text s.direction.word)] ++
      s.connection.members ++
      [("method", .text s.method), ("path", .text s.path), ("url", .text s.url)] ++
      (s.status.map fun n => ("status", Json.ofNat n.toNat)).toList ++
      [("content_type", .text s.contentType), ("info", .text s.info)]
  | .plainRequest r =>
    [("type", .text r.kind), ("scheme", .text r.scheme), ("host", .text r.host),
      ("method", .text r.method), ("path", .text r.path), ("content", .text r.content)]
  | .plainResponse r =>
    [("type", .text r.kind), ("scheme", .text r.scheme), ("host", .text r.host),
      ("status", .ofNat r.status.toNat), ("content", .text r.content)]

def toJson (e : Event) : Json := .object e.members

/-- The text that is published for an event. -/
def payload (e : Event) : String := e.toJson.render

end Event

end TrafficFeed
