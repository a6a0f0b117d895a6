import TrafficFeed.Net.Address
import TrafficFeed.Text.Property

/-!
# Endpoints

Where a socket publishes, or where a subscriber finds it: `tcp://host:port`, or the path of a file
after `ipc://`. The host is a name or an address, one of the sixth version in brackets.
-/

namespace TrafficFeed.Transport

open TrafficFeed.Net TrafficFeed.Text

namespace Endpoint

/-- A host: an address or a name. -/
inductive Host where
  | address (ip : Ip)
  | name (text : String)
  deriving DecidableEq, Repr

/-- Why a text is no endpoint. -/
inductive Error where
  | noTransport
  | noHostAndPort
  | portRange
  | unknownTransport (name : String)
  deriving DecidableEq, Repr

def Error.message : Error → String
  | .noTransport => "Endpoint Error: Invalid Syntax: Could not parse transport"
  | .noHostAndPort => "Endpoint Error: Invalid Syntax: Could not parse host and port"
  | .portRange => "Endpoint Error: Invalid Syntax: Port must be a u16 but was out of range"
  | .unknownTransport name => "Endpoint Error: Unknown transport type " ++ name

/-- A host as it is looked up. -/
def Host.toText : Host → String
  | .address ip => ip.toText
  | .name text => text

end Endpoint

inductive Endpoint where
  | tcp (host : Endpoint.Host) (port : UInt16)
  | ipc (path : String)
  deriving DecidableEq, Repr

namespace Endpoint

def toText : Endpoint → String
  | .tcp (.address (.v6 ip)) port => "tcp://[" ++ ip.toText ++ "]:" ++ toString port.toNat
  | .tcp host port => "tcp://" ++ host.toText ++ ":" ++ toString port.toNat
  | .ipc path => "ipc://" ++ path

/-- The endpoint with the address of all interfaces in place of a star as host. -/
def normalize (s : String) : String :=
  match s.toList with
  | 't' :: 'c' :: 'p' :: ':' :: '/' :: '/' :: '*' :: ':' :: port =>
    "tcp://0.0.0.0:" ++ String.ofList port
  | _ => s

/-! ### Reading -/

/-- The parts around the last colon, if there is one. -/
def splitLastColon? : List Char → Option (List Char × List Char)
  | [] => none
  | c :: cs =>
    match splitLastColon? cs with
    | some (before, after) => some (c :: before, after)
    | none => if c = ':' then some ([], cs) else none

/-- An address of the sixth version in brackets. -/
def inBrackets? : List Char → Option Ip
  | '[' :: cs =>
    match cs.reverse with
    | ']' :: inside =>
      match Ip.ofText? (String.ofList inside.reverse) with
      | some (.v6 ip) => some (.v6 ip)
      | _ => none
    | _ => none
  | _ => none

def readHost (cs : List Char) : Host :=
  match Ip.ofText? (String.ofList cs), inBrackets? cs with
  | some (.v4 ip), _ => .address (.v4 ip)
  | _, some ip => .address ip
  | _, none => .name (String.ofList cs)

def readPort (cs : List Char) : Except Error UInt16 :=
  match ofDigits? decimalDigit? 10 cs with
  | some n => if n < 65536 then .ok (UInt16.ofNat n) else .error .portRange
  | none => .error .portRange

/-- Host and port, which the last colon separates. -/
def readTcp (cs : List Char) : Except Error Endpoint :=
  match splitLastColon? cs with
  | some (host, port) =>
    if host.isEmpty || port.isEmpty || !port.all isAnyDigit then .error .noHostAndPort
    else do
      let port ← readPort port
      return .tcp (readHost host) port
  | none => .error .noHostAndPort

def isLowerLetter (c : Char) : Bool := 'a' ≤ c && c ≤ 'z'

/-- Reads an endpoint. It is a single line. -/
def parse (s : String) : Except Error Endpoint :=
  let name := s.toList.takeWhile isLowerLetter
  match s.toList.dropWhile isLowerLetter with
  | ':' :: '/' :: '/' :: address =>
    if name.isEmpty || address.isEmpty || address.contains '\n' then .error .noTransport
    else
      match String.ofList name with
      | "tcp" => readTcp address
      | "ipc" => .ok (.ipc (String.ofList address))
      | other => .error (.unknownTransport other)
  | _ => .error .noTransport

end Endpoint

end TrafficFeed.Transport
