import TrafficFeed.Http.Exchange
import TrafficFeed.Url.Parser

/-!
# Requests by their targets

A request made from a method and a full target.
-/

namespace TrafficFeed.Http

open TrafficFeed.Text

/-- The request of a method and a target as read: without headers and body. The fragment and the
user are not part of a request. -/
def Request.ofTarget (method : String) (u : Url) : Request :=
  { scheme := u.scheme
    host := u.hostText
    port := u.port?.getD (defaultPort u.scheme)
    method := upper method
    path := u.pathAndQuery
    version := defaultVersion
    headers := Headers.empty
    raw := ByteArray.empty
    decoded := none
    startedAt := none }

def Request.ofUrl (method target : String) : Except Url.Error Request :=
  (Url.parse target).map (Request.ofTarget method)

end TrafficFeed.Http
