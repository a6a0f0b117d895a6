import TrafficFeed.Text.Cut
import TrafficFeed.Text.Lossy
import TrafficFeed.Text.Property
import TrafficFeed.Url.Parser
import TrafficFeed.Url.Password

/-!
# Targets of list publishers

The server that holds a list, given by a target such as `redis://:secret@192.168.1.10:6380/0`: a
host with a port, or the path of a file, and the number of a database. What is told of a target
that cannot be used never shows the password before its host.
-/

namespace TrafficFeed.Transport

open TrafficFeed.Text

/-- Where a server listens. -/
inductive ServerAddress where
  | tcp (host : String) (port : UInt16)
  | file (path : ByteArray)

def ServerAddress.toText : ServerAddress → String
  | .tcp host port => host ++ ":" ++ toString port.toNat
  | .file path => lossyText path

/-- The version of the server's language. -/
inductive Dialect where
  | second
  | third
  deriving DecidableEq, Repr

/-- A server, and how to begin a conversation with it. -/
structure ListTarget where
  address : ServerAddress
  database : Int
  user : Option String
  password : Option String
  dialect : Dialect

namespace ListTarget

/-- Why a text is no target. -/
inductive Error where
  | unreadable
  | noHost
  | encrypted
  | database
  | user
  | password
  | dialect (text : String)
  | noPath
  deriving DecidableEq, Repr

/-- What all faults of a target have in common. -/
def faultKind : String := "InvalidClientConfig"

def Error.message : Error → String
  | .unreadable => "Redis URL did not parse- " ++ faultKind
  | .noHost => "Missing hostname- " ++ faultKind
  | .encrypted => "can't connect with TLS, the feature is not enabled- " ++ faultKind
  | .database => "Invalid database number- " ++ faultKind
  | .user => "Username is not valid UTF-8 string- " ++ faultKind
  | .password => "Password is not valid UTF-8 string- " ++ faultKind
  | .dialect text => "Invalid protocol version - " ++ faultKind ++ ": " ++ text
  | .noPath => "Missing path- " ++ faultKind

/-! ### Parts of a target -/

def defaultPort : UInt16 := 6379

/-- Reads a number of 64 bits with an optional sign. -/
def readDatabase (s : String) : Except Error Int :=
  match s.toList with
  | '-' :: cs =>
    match readDigits (UInt64.size / 2 + 1) 0 cs with
    | .ok n => if cs.isEmpty then .error .database else .ok (-n)
    | .error _ => .error .database
  | _ =>
    match readNumeral (UInt64.size / 2) s with
    | .ok n => .ok n
    | .error _ => .error .database

/-- The characters of a list with each plus sign as a blank. -/
def plusToBlank (cs : List Char) : List Char := cs.map fun c => if c = '+' then ' ' else c

/-- A name or a value of a query as text. -/
def queryText (cs : List Char) : String :=
  lossyText (Url.decodeOctets (plusToBlank cs)).toByteArray

/-- The parts of a query, each split at its first equals sign. -/
def queryPairs (query : String) : List (String × String) :=
  ((cut '&' query.toList).filter (!·.isEmpty)).map fun part =>
    (queryText (part.takeWhile (· ≠ '=')), queryText ((part.dropWhile (· ≠ '=')).drop 1))

/-- The last value of a name in a query. -/
def queryValue? (u : Url) (name : String) : Option String :=
  (queryPairs (u.query.getD "")).reverse.lookup name

/-- The version of the server's language that a query asks for. -/
def readDialect (u : Url) : Except Error Dialect :=
  match queryValue? u "protocol" with
  | none => .ok .second
  | some text =>
    if text = "2" ∨ text = "resp2" then .ok .second
    else if text = "3" ∨ text = "resp3" then .ok .third
    else .error (.dialect text)

/-- A part of the user information, decoded. -/
def decoded (e : Error) (s : String) : Except Error String :=
  match Url.decode? s.toList with
  | some text => .ok text
  | none => .error e

/-- The path without the slashes at its ends. -/
def barePath (path : String) : String := String.ofList (trimWhere (· == '/') path.toList)

/-- The host by itself, an address of the sixth version without brackets. -/
def bareHost : Url.Host → String
  | .name text => text
  | .ipv4 ip => ip.toText
  | .ipv6 ip => ip.toText

/-! ### Reading -/

/-- The target of a server at a host. -/
def ofHost (u : Url) : Except Error ListTarget := do
  match u.authority.bind fun a => a.host.map fun h => (a, h) with
  | none => .error .noHost
  | some (a, host) =>
    if u.scheme = "rediss" then .error .encrypted
    else
      let path := barePath u.path
      let database ← if path.isEmpty then .ok 0 else readDatabase path
      let user ← if a.user.isEmpty then .ok none else some <$> decoded .user a.user
      let password ← match a.password with
        | none => .ok none
        | some p => some <$> decoded .password p
      let dialect ← readDialect u
      return { address := .tcp (bareHost host) (a.port.getD defaultPort)
               database, user, password, dialect }

/-- The octets of a path, decoded. A drive letter at its end gets a slash. -/
def filePath? (u : Url) : Option ByteArray :=
  let isLocal := match u.authority.bind (·.host) with
    | none => true
    | some host => host = .name "localhost"
  if !isLocal || !u.path.startsWith "/" then none
  else
    let octets := Url.decodeOctets u.path.toList
    match octets.reverse with
    | last :: letter :: _ :: _ =>
      let isLetter := (65 ≤ letter && letter ≤ 90) || (97 ≤ letter && letter ≤ 122)
      if isLetter && (last = 58 || last = 124) then some (octets ++ [47]).toByteArray
      else some octets.toByteArray
    | _ => some octets.toByteArray

/-- The target of a server at the path of a file. -/
def ofFile (u : Url) : Except Error ListTarget := do
  match filePath? u with
  | none => .error .noPath
  | some path =>
    let database ← match queryValue? u "db" with
      | none => .ok 0
      | some text => readDatabase text
    let dialect ← readDialect u
    return { address := .file path, database, user := queryValue? u "user"
             password := queryValue? u "pass", dialect }

def parse (s : String) : Except Error ListTarget :=
  match Url.parse s with
  | .error _ => .error .unreadable
  | .ok u =>
    if u.scheme = "redis" ∨ u.scheme = "rediss" then ofHost u
    else if u.scheme = "redis+unix" ∨ u.scheme = "unix" then ofFile u
    else .error .unreadable

/-! ### Telling of a target -/

def mask : String := "***"

/-- A target with its password masked, if it has one. A target that may have none stays as it is. -/
def masked (u : Url) : Url :=
  if u.password?.isSome then (u.setPassword? mask).getD u else u

/-- The text of a target as it may be told; nothing of a text that is no target. -/
def redacted (s : String) : String :=
  match Url.parse s with
  | .ok u => (masked u).toText
  | .error _ => "<invalid url>"

end ListTarget

end TrafficFeed.Transport
