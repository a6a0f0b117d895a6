import TrafficFeed.Clock.Instant
import TrafficFeed.Http.Headers
import TrafficFeed.Text.Ascii

/-!
# Requests and responses

The two halves of an exchange as captured. A body is kept as it crossed the wire and, where the
proxy removed its content encoding, in decoded form as well; the decoded form is the one shown. A
scheme is a text as captured. Two of them run over an encrypted connection, and that decides the
port of a target that names none.
-/

namespace TrafficFeed.Http

open TrafficFeed.Clock TrafficFeed.Text

/-- Whether a scheme runs over an encrypted connection. -/
def isEncryptedScheme (scheme : String) : Bool :=
  sameLetters scheme "https" || sameLetters scheme "wss"

/-- The port of a scheme: 443 if encrypted, else 80. -/
def defaultPort (scheme : String) : UInt16 := if isEncryptedScheme scheme then 443 else 80

/-- The request half of an exchange. `path` includes the query. -/
structure Request where
  scheme : String
  host : String
  port : UInt16
  method : String
  path : String
  version : String
  headers : Headers
  raw : ByteArray
  decoded : Option ByteArray
  startedAt : Option Instant

structure Response where
  status : UInt16
  reason : String
  version : String
  headers : Headers
  raw : ByteArray
  decoded : Option ByteArray

/-- The version that a message has unless another is given. -/
def defaultVersion : String := "HTTP/1.1"

namespace Request

/-- The full target. The port is left out if it is the scheme's own. -/
def url (r : Request) : String :=
  if r.port = defaultPort r.scheme then r.scheme ++ "://" ++ r.host ++ r.path
  else r.scheme ++ "://" ++ r.host ++ ":" ++ toString r.port.toNat ++ r.path

/-- The decoded body if there is one, else the raw body. -/
def body (r : Request) : ByteArray := r.decoded.getD r.raw

def isEncrypted (r : Request) : Bool := isEncryptedScheme r.scheme

end Request

/-- The decoded body if there is one, else the raw body. -/
def Response.body (r : Response) : ByteArray := r.decoded.getD r.raw

end TrafficFeed.Http
