import TrafficFeed.Json.Parser
import TrafficFeed.Text.Ascii

/-!
# Messages

What a subscriber makes of a message. The member `type` decides; a message without a textual
`type` is a detail if it has headers and a body. A member that is absent, or not of the kind
expected, reads as the empty text or as zero.
-/

namespace TrafficFeed

/-- What a message turned out to be. -/
inductive Message where
  | request (method url : String)
  | flowInfo (flowId info : String)
  | detail (direction flowId : String)
  | plainRequest (method url : String)
  | plainResponse (status : Int) (host : String)
  | unknown
  deriving DecidableEq, Repr

/-- The text under a key, or the empty text. -/
def Json.textAt (key : String) (v : Json) : String := ((v.get? key).bind Json.asText?).getD ""

/-- Whether there is a member under a key, of whatever kind. -/
def Json.has (key : String) (v : Json) : Bool := (v.get? key).isSome

namespace Message

/-- What a value is as a message. -/
def classify (v : Json) : Message :=
  match (v.get? "type").bind Json.asText? with
  | some "request" =>
    if v.has "content" then .plainRequest (v.textAt "method") (v.textAt "host" ++ v.textAt "path")
    else .request (v.textAt "method") (v.textAt "url")
  | some "response" =>
    .plainResponse (((v.get? "status").bind Json.asInt64?).getD 0) (v.textAt "host")
  | some "flow_info" => .flowInfo (v.textAt "flow_id") (v.textAt "info")
  | some _ => .unknown
  | none =>
    if v.has "headers" && v.has "body" then .detail (v.textAt "direction") (v.textAt "flow_id")
    else .unknown

/-- The line that is printed for a message. -/
def line : Message → String
  | .request method url => "[request] " ++ method ++ " " ++ url
  | .plainRequest method url => "[request] " ++ method ++ " " ++ url
  | .plainResponse status host => "[response] " ++ toString status ++ " " ++ host
  | .flowInfo flowId info => "[flow " ++ flowId ++ "] " ++ info
  | .detail direction flowId => "[detail:" ++ direction ++ "] " ++ flowId
  | .unknown => "[unknown]"

end Message

end TrafficFeed
