import TrafficFeed.Event
import TrafficFeed.Text.Base64

/-!
# Describing a flow

The events that tell of a flow, derived from the flow and the moment of its capture alone.
-/

namespace TrafficFeed

open TrafficFeed.Http TrafficFeed.Net TrafficFeed.Text TrafficFeed.Clock

/-! ### Where a request was sent -/

/-- The virtual host: the `:authority` header, else the `Host` header, else the host of the
request's target. -/
def Http.Request.virtualHost (r : Request) : String :=
  match r.headers.get? ":authority" with
  | some authority => authority
  | none => (r.headers.get? "host").getD r.host

/-- The server's address and port. An address alone keeps the request's port; where no address is
known, the request's host stands with the port of its scheme. -/
def Http.Request.destination (r : Request) : Option PeerAddress → String × UInt16
  | some (.socket s) => (s.ip.toText, s.port)
  | some (.ip ip) => (ip.toText, r.port)
  | none => (r.host, defaultPort r.scheme)

/-- The first content type, or the empty text. -/
def Http.Headers.contentType (hs : Headers) : String := (hs.get? "content-type").getD ""

/-! ### Bodies -/

/-- A body as text: itself if it is UTF-8, else its Base64 form. -/
def bodyText (body : ByteArray) : String :=
  match String.fromUTF8? body with
  | some text => text
  | none => String.ofList (Base64.encode body.data.toList)

def bodyLength (body : ByteArray) : UInt64 := UInt64.ofNat body.size

/-! ### Details -/

/-- The transport below every captured connection. -/
def transportProtocol : String := "TCP"

namespace Flow

/-- What is known of the connection. The version is that of the response once there is one. -/
def connection (flow : Flow) (now : Instant) : Connection :=
  let (srcIp, srcPort) := match flow.client with
    | some s => (s.ip.toText, s.port)
    | none => ("", 0)
  let (dstIp, dstPort) := flow.request.destination flow.server
  { timestamp := now.timestamp
    srcIp, srcPort, dstIp, dstPort
    protocol := transportProtocol
    topProtocol := upper flow.request.scheme
    httpVersion := match flow.response with
      | some r => r.version
      | none => flow.request.version
    flowId := flow.id
    host := flow.request.virtualHost }

end Flow

/-- The request as it is remembered; its time is the start of the request if that is known. -/
def Http.Request.captured (r : Request) (now : Instant) : CapturedRequest :=
  { method := r.method
    path := r.path
    url := r.url
    headers := r.headers.toBlock
    body := bodyText r.body
    length := bodyLength r.body
    contentType := r.headers.contentType
    timestamp := (r.startedAt.getD now).timestamp
    topProtocol := upper r.scheme }

def CapturedRequest.detail (r : CapturedRequest) (c : Connection) : RequestDetail :=
  { direction := .request
    flowId := c.flowId
    timestamp := r.timestamp
    topProtocol := r.topProtocol
    method := r.method
    path := r.path
    url := r.url
    headers := r.headers
    body := r.body
    length := r.length
    contentType := r.contentType }

def Http.Response.detail (r : Response) (c : Connection) : ResponseDetail :=
  { direction := .response
    flowId := c.flowId
    timestamp := c.timestamp
    topProtocol := c.topProtocol
    status := r.status
    reason := r.reason
    headers := r.headers.toBlock
    body := bodyText r.body
    length := bodyLength r.body
    contentType := r.headers.contentType }

/-! ### Summaries -/

/-- The summary of a remembered request; its line is method, path and version. -/
def CapturedRequest.summary (r : CapturedRequest) (c : Connection) : FlowSummary :=
  { kind := .request
    direction := .request
    connection := c
    method := r.method
    path := r.path
    url := r.url
    status := none
    contentType := r.contentType
    info := r.method ++ " " ++ r.path ++ " " ++ c.httpVersion }

/-- The line of a response: version, status and reason as far as they are not empty, and what is
known of its content. -/
def Http.Response.info (r : Response) (version : String) : String :=
  let parts := [version, toString r.status.toNat, r.reason].filter (!·.isEmpty)
  let content :=
    if r.body.isEmpty then "(content missing)"
    else if r.headers.contentType.isEmpty then "(unknown content type)"
    else "(" ++ r.headers.contentType ++ ")"
  " ".intercalate parts ++ "  " ++ content

/-- The summary of a response. Method, path and target are those of the remembered request, or
empty if none is remembered. -/
def Http.Response.summary (r : Response) (c : Connection) (request : Option CapturedRequest) :
    FlowSummary :=
  { kind := .flowInfo
    direction := .response
    connection := c
    method := (request.map (·.method)).getD ""
    path := (request.map (·.path)).getD ""
    url := (request.map (·.url)).getD ""
    status := some r.status
    contentType := r.headers.contentType
    info := r.info c.httpVersion }

/-! ### Plain events -/

def Http.Request.plain (r : Request) : PlainRequest :=
  { kind := "request"
    scheme := r.scheme
    host := r.host
    method := r.method
    path := r.path
    content := bodyText r.body }

def Http.Response.plain (r : Response) (request : Request) : PlainResponse :=
  { kind := "response"
    scheme := request.scheme
    host := request.host
    status := r.status
    content := bodyText r.body }

end TrafficFeed
