import TrafficFeed.Net.Address

/-!
# Targets

A target with its parts in the form in which they are written: the scheme in lower case, the host
in its shortest form, and path, query and fragment with all that may not stand encoded.
-/

namespace TrafficFeed

open TrafficFeed.Net

namespace Url

/-- Why a text is no target. -/
inductive Error where
  | noScheme
  | emptyHost
  | invalidDomain
  | invalidHostCharacter
  | invalidPort
  | invalidIpv4
  | invalidIpv6
  deriving DecidableEq, Repr

def Error.message : Error → String
  | .noScheme => "relative URL without a base"
  | .emptyHost => "empty host"
  | .invalidDomain => "invalid international domain name"
  | .invalidHostCharacter => "invalid domain character"
  | .invalidPort => "invalid port number"
  | .invalidIpv4 => "invalid IPv4 address"
  | .invalidIpv6 => "invalid IPv6 address"

/-- A host: a name, or an address of either version. -/
inductive Host where
  | name (text : String)
  | ipv4 (ip : Ipv4)
  | ipv6 (ip : Ipv6)
  deriving DecidableEq, Repr

/-- A host as it stands in a target; an address of version six is in brackets. -/
def Host.toText : Host → String
  | .name text => text
  | .ipv4 ip => ip.toText
  | .ipv6 ip => "[" ++ shortGroups ip.groups ++ "]"

/-- What stands between the two slashes and the path. The port is absent if it is the scheme's
own. -/
structure Authority where
  user : String
  password : Option String
  host : Option Host
  port : Option UInt16
  deriving DecidableEq, Repr

def Authority.empty : Authority := ⟨"", none, none, none⟩

/-- User and password with what separates them from the host. -/
def Authority.userText (a : Authority) : String :=
  match a.password with
  | some password => a.user ++ ":" ++ password ++ "@"
  | none => if a.user = "" then "" else a.user ++ "@"

def Authority.toText (a : Authority) : String :=
  a.userText ++ ((a.host.map Host.toText).getD "") ++
    ((a.port.map fun p => ":" ++ toString p.toNat).getD "")

/-- The schemes with rules of their own: those of the web and of files. -/
inductive Kind where
  | web
  | file
  | other
  deriving DecidableEq, Repr

/-- The kind of a scheme in lower case. -/
def Kind.ofScheme (scheme : String) : Kind :=
  if scheme = "http" ∨ scheme = "https" ∨ scheme = "ws" ∨ scheme = "wss" ∨ scheme = "ftp" then .web
  else if scheme = "file" then .file
  else .other

/-- Whether a backslash counts as a slash. -/
def Kind.isSpecial : Kind → Bool
  | .other => false
  | _ => true

/-- The port that a scheme is known by. -/
def knownPort? (scheme : String) : Option UInt16 :=
  if scheme = "http" ∨ scheme = "ws" then some 80
  else if scheme = "https" ∨ scheme = "wss" then some 443
  else if scheme = "ftp" then some 21
  else none

end Url

/-- A target. A path without an authority may be any text; with one it is empty or begins with a
slash. -/
structure Url where
  scheme : String
  authority : Option Url.Authority
  path : String
  query : Option String
  fragment : Option String
  deriving DecidableEq, Repr

namespace Url

/-- The host as text; empty if there is none. -/
def hostText (u : Url) : String :=
  ((u.authority.bind (·.host)).map Host.toText).getD ""

/-- The port given, or else the one that the scheme is known by. -/
def port? (u : Url) : Option UInt16 :=
  match u.authority.bind (·.port) with
  | some port => some port
  | none => knownPort? u.scheme

def pathAndQuery (u : Url) : String :=
  match u.query with
  | some q => u.path ++ "?" ++ q
  | none => u.path

/-- What stands between the scheme's colon and the path. A path that begins with two slashes and
has no authority is kept apart by a point. -/
def authorityText (u : Url) : String :=
  match u.authority with
  | some a => "//" ++ a.toText
  | none => if u.path.startsWith "//" then "/." else ""

def toText (u : Url) : String :=
  u.scheme ++ ":" ++ u.authorityText ++ u.pathAndQuery ++
    ((u.fragment.map ("#" ++ ·)).getD "")

end Url

end TrafficFeed
