import TrafficFeed.Transport.Basic
import TrafficFeed.Transport.ListTarget
import TrafficFeed.Transport.Machine

/-!
# The list publisher

Pushes each message onto the end of a list that a server holds. To make the connection anew it is
given up and asked for once. While there is no connection nothing can be published.
-/

namespace TrafficFeed.Transport

open TrafficFeed.Text

/-- What a list publisher needs of its surroundings, whose state is of type `ε`. -/
structure Servers (ε : Type) where
  /-- Begins a conversation with a server. -/
  connect : ListTarget → ε → Except String Unit × ε
  /-- Pushes a message onto the end of a list. -/
  push : (list : String) → ByteArray → ε → Except String Unit × ε

/-- A list publisher, and whether it has a connection. -/
structure ListPublisher where
  target : ListTarget
  list : String
  connected : Bool

namespace ListPublisher

variable {ε : Type}

/-- How a list publisher is named in logs. -/
def describe (p : ListPublisher) : String :=
  "redis-list " ++ p.target.address.toText ++ "/" ++ p.list

/-- Asks for a connection. -/
def dial (s : Servers ε) (p : ListPublisher) (e : ε) :
    Except TransportError ListPublisher × ε :=
  match s.connect p.target e with
  | (.ok (), e) => (.ok { p with connected := true }, e)
  | (.error details, e) => (.error (.connect p.describe details), e)

/-- A new list publisher for a target given as text. -/
def connect (s : Servers ε) (target list : String) (e : ε) :
    Except TransportError ListPublisher × ε :=
  match ListTarget.parse target with
  | .error error => (.error (.connect (ListTarget.redacted target) error.message), e)
  | .ok parsed => dial s ⟨parsed, list, false⟩ e

/-- Gives up the connection. -/
def close (p : ListPublisher) : ListPublisher := { p with connected := false }

def publish (s : Servers ε) (message : ByteArray) (p : ListPublisher) (e : ε) : Outcome × ε :=
  if p.connected then
    match s.push p.list message e with
    | (.ok (), e) => (.ok, e)
    | (.error details, e) => (.failed (.send details), e)
  else (.failed .closed, e)

/-- Makes the connection anew. -/
def rebuild (s : Servers ε) (p : ListPublisher) (e : ε) : Outcome × ListPublisher × ε :=
  match dial s p.close e with
  | (.ok p, e) => (.ok, p, e)
  | (.error error, e) => (.failed error, p.close, e)

/-- A list publisher and its surroundings as a transport. -/
def transport (s : Servers ε) : Transport (ListPublisher × ε) where
  publish text := fun (p, e) =>
    let (outcome, e) := p.publish s text.toUTF8 e
    (outcome, p, e)
  rebuild := fun (p, e) => p.rebuild s e
  close := fun (p, e) => (p.close, e)
  describe := fun (p, _) => p.describe

end ListPublisher

def Machine.noFile : String := "No such file or directory (os error 2)"

def Machine.zeroInPath : String := "paths must not contain interior null bytes"

def Machine.longPath : String := "path must be shorter than SUN_LEN"

/-- One more than the number of octets that the path of a socket may have. -/
def Machine.pathBound : Nat := 108

def Machine.noSocket : String := "Connection refused (os error 111)"

/-- The directories that the machine is sure to have, besides the one that holds them. -/
def Machine.directories : List String :=
  ["bin", "dev", "etc", "home", "lib", "opt", "proc", "root", "run", "tmp", "usr", "var"]

/-- Whether a path leads to a directory of the machine. -/
def Machine.isDirectory (path : ByteArray) : Bool :=
  match (cut '/' (lossyText path).toList).filter fun part => part ≠ [] ∧ part ≠ ['.'] with
  | [] => true
  | [part] => directories.contains (String.ofList part)
  | _ => false

/-- What is said of an attempt to reach a socket at the path of a file. -/
def Machine.fileFault (path : ByteArray) : String :=
  if path.toList.contains 0 then zeroInPath
  else if pathBound ≤ path.size then longPath
  else if isDirectory path then noSocket
  else noFile

/-- The servers that a machine on its own can reach: none. -/
def Machine.servers : Servers Machine where
  connect target m :=
    match target.address with
    | .tcp host _ => (dial host, m)
    | .file path => (.error (fileFault path), m)
  push _ _ m := (.error unreachable, m)

end TrafficFeed.Transport
