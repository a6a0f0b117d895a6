import TrafficFeed.Net.Numeric
import TrafficFeed.Text.Ascii
import TrafficFeed.Transport.Endpoint

/-!
# A machine on its own

A machine that is part of no network and whose interfaces are down. Programs may listen at its
ports, one at each, but no connection can be made. It knows addresses and its own name.
-/

namespace TrafficFeed.Transport

open TrafficFeed.Net TrafficFeed.Text

/-- Why a socket does not open: a fault that is told, or one at which the attempt breaks off. -/
inductive OpenError where
  | failed (details : String)
  | broken (details : String)
  deriving DecidableEq, Repr

/-- The ports in use. -/
structure Machine where
  taken : List UInt16
  deriving DecidableEq, Repr

namespace Machine

/-! ### What is said of a fault -/

def unknownName : String :=
  "failed to lookup address information: Name or service not known"

/-- What is said of a name for which there is nobody to ask. -/
def noResolver : String :=
  "failed to lookup address information: Temporary failure in name resolution"

def unreachable : String := "Network is unreachable (os error 101)"

def inUse : String := "Address already in use (os error 98)"

def noInterface : String := "Cannot assign requested address (os error 99)"

def unsuitable : String := "Invalid argument (os error 22)"

/-- What is said of a socket at the path of a file. -/
def noFileSockets : String := "IPC transport is not available on this platform"

/-! ### Names -/

/-- The address of the machine for itself. -/
def self : Ip := .v4 ⟨127, 0, 0, 1⟩

/-- A character of a host name. -/
def isHostLetter (c : Char) : Bool := c.isAlphanum || c = '-' || c = '_'

/-- Whether a host can have a name: parts of 1 to 63 letters with points between them and
perhaps one at the end, 255 characters at most, and no hyphen in front. A point by itself is the
name of all names. -/
def isHostName (name : List Char) : Bool :=
  let parts := (cut '.' name).reverse
  let parts := match parts with
    | [[], []] => []
    | [] :: front@(_ :: _) => front
    | _ => parts
  name.length ≤ 255 && name.head? ≠ some '-' &&
    parts.all fun p => !p.isEmpty && p.length ≤ 63 && p.all isHostLetter

def nulInName : String := "file name contained an unexpected NUL byte"

/-- The address of a name. -/
def lookUp (name : String) : Except String Ip :=
  match Ip.ofText? name, Ipv4.ofNumericText? name.toList with
  | some ip, _ => .ok ip
  | none, some ip => .ok (.v4 ip)
  | none, none =>
    if name.contains (Char.ofNat 0) then .error nulInName
    else if lower name = "localhost" then .ok self
    else if isHostName name.toList then .error noResolver
    else .error unknownName

/-! ### Addresses -/

/-- The groups that stand in front of an address of version four. -/
def mappedGroups : List UInt16 := [0, 0, 0, 0, 0, 0xffff]

/-- What is said of an attempt to listen at an address, if anything. While interfaces are down,
every address of version four will do. -/
def listenFault? : Ip → Option String
  | .v4 _ => none
  | .v6 ip =>
    let first := ip.groups.headD 0
    if ip.groups.all (· = 0) || ip.groups.take 6 = mappedGroups then none
    else if first &&& 0xffc0 = 0xfe80 || first &&& 0xff00 = 0xff00 then some unsuitable
    else some noInterface

/-- What is said of an attempt to connect to an address. -/
def dialFault : Ip → String
  | .v4 _ => unreachable
  | .v6 ip =>
    let first := ip.groups.headD 0
    if ip.groups.take 6 = mappedGroups || first &&& 0xff00 = 0xff00 then unreachable
    else if first &&& 0xffc0 = 0xfe80 then unsuitable
    else noInterface

/-! ### Ports -/

/-- The first of the ports that are given out on request. -/
def firstFree : Nat := 49152

/-- A port that is not in use: of so many ports in a row, one more than are in use, some port is
not. -/
def freePort (m : Machine) : UInt16 :=
  let candidates := (List.range (m.taken.length + 1)).map fun i => UInt16.ofNat (firstFree + i)
  (candidates.find? fun p => !m.taken.contains p).getD 0

/-- Takes a port of an address; a port of zero asks for any. -/
def listen (m : Machine) (ip : Ip) (port : UInt16) : Except String UInt16 × Machine :=
  match listenFault? ip with
  | some fault => (.error fault, m)
  | none =>
    let port := if port = 0 then m.freePort else port
    if m.taken.contains port then (.error inUse, m) else (.ok port, ⟨port :: m.taken⟩)

/-- Gives a port back. -/
def release (m : Machine) (port : UInt16) : Machine := ⟨m.taken.filter (· ≠ port)⟩

/-- Opens a socket at an endpoint and returns the endpoint with the port it has; the host stays as
it is given. -/
def bind (m : Machine) : Endpoint → Except OpenError Endpoint × Machine
  | .ipc _ => (.error (.broken noFileSockets), m)
  | .tcp host port =>
    match lookUp host.toText with
    | .error details => (.error (.failed ("Network Error: " ++ details)), m)
    | .ok ip =>
      match m.listen ip port with
      | (.ok port, m) => (.ok (.tcp host port), m)
      | (.error details, m) => (.error (.failed ("Network Error: " ++ details)), m)

/-- Closes the socket at an endpoint. -/
def close (m : Machine) : Endpoint → Machine
  | .tcp _ port => m.release port
  | .ipc _ => m

/-- What becomes of an attempt to connect to a port of a host. -/
def dial (host : String) : Except String Unit := do
  .error (dialFault (← lookUp host))

/-- What becomes of an attempt to connect to an endpoint. -/
def connect : Endpoint → Except OpenError Unit
  | .ipc _ => .error (.broken noFileSockets)
  | .tcp host _ => (dial host.toText).mapError fun details => .failed ("Network Error: " ++ details)

end Machine

end TrafficFeed.Transport
