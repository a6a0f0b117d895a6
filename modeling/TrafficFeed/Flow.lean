import TrafficFeed.Http.Exchange
import TrafficFeed.Net.Address
import TrafficFeed.Text.Hex

/-!
# Flows

A flow is one exchange seen by the proxy: a request, later its response, and the addresses at
either end as far as they are known. Its identity ties the two captures of an exchange together.
-/

namespace TrafficFeed

open TrafficFeed.Http TrafficFeed.Net TrafficFeed.Text

/-- The identity of a flow, given by the proxy. -/
structure FlowId where
  text : String
  deriving DecidableEq, Repr, Hashable

namespace FlowId

/-- The order of identities is that of their octets in UTF-8, which is the order of their
characters. -/
instance : Ord FlowId := ⟨fun a b => compare a.text b.text⟩

/-- The identity made of 128 bits: 32 hexadecimal digits in five groups, of which the 13th is 4
and the 17th has its two high bits set to 10. -/
def ofBits (bits : Nat) : FlowId :=
  let digits := Nat.toDigits 16 (bits % (UInt64.size * UInt64.size))
  let all := List.replicate (32 - digits.length) '0' ++ digits
  let variant (c : Char) : Char := digitChar (8 + (hexDigit? c).getD 0 % 4)
  let third := '4' :: (all.drop 13).take 3
  let fourth := ((all.drop 16).take 1).map variant ++ (all.drop 17).take 3
  ⟨String.ofList ("-".toList.intercalate
    [all.take 8, (all.drop 8).take 4, third, fourth, all.drop 20])⟩

/-- A supply of identities: those of the numbers from `next` on. -/
structure Supply where
  next : Nat
  deriving Repr

def Supply.draw (s : Supply) : FlowId × Supply := (ofBits s.next, ⟨s.next + 1⟩)

end FlowId

/-- The server's address: an endpoint, or an address alone. -/
inductive PeerAddress where
  | socket (s : Socket)
  | ip (ip : Ip)
  deriving DecidableEq, Repr

/-- One exchange. There is no response until the response phase. -/
structure Flow where
  id : FlowId
  request : Request
  response : Option Response
  client : Option Socket
  server : Option PeerAddress

end TrafficFeed
