import TrafficFeed.Text.Property
import TrafficFeed.Url.Host
import TrafficFeed.Url.Path

/-!
# Reading targets

The reading of a target from a text. Blanks and controls at either end do not count, nor do tabs
and line ends anywhere. The text is cut into its parts first, and then each part is read.
-/

namespace TrafficFeed.Url

open TrafficFeed.Net TrafficFeed.Text

/-! ### Cutting a text into parts -/

/-- The text without controls and blanks at its ends. -/
def trimmed (cs : List Char) : List Char := trimWhere (fun c => c.toNat ≤ 0x20) cs

/-- The characters of a scheme after its first letter. -/
def isSchemeChar (c : Char) : Bool :=
  isLetter c || ('0' ≤ c && c ≤ '9') || c == '+' || c == '-' || c == '.'

/-- The scheme in lower case, and the text after its colon. -/
def takeScheme? (cs : List Char) : Option (String × List Char) :=
  match cs with
  | [] => none
  | c :: _ =>
    let belongs (c : Char) : Bool := isSchemeChar c || isBreak c
    if isLetter c then
      match cs.dropWhile belongs with
      | ':' :: rest =>
        some (String.ofList ((unbroken (cs.takeWhile belongs)).map Char.toLower), rest)
      | _ => none
    else none

/-- A text cut where its query and its fragment begin. -/
structure Cut where
  body : List Char
  query : Option (List Char)
  fragment : Option (List Char)

/-- Cuts a text at the first `#`, and what is before it at the first `?`. -/
def cutTail (cs : List Char) : Cut :=
  let front := cs.takeWhile (· != '#')
  let fragment := match cs.dropWhile (· != '#') with
    | [] => none
    | _ :: f => some f
  let body := front.takeWhile (· != '?')
  let query := match front.dropWhile (· != '?') with
    | [] => none
    | _ :: q => some q
  ⟨body, query, fragment⟩

/-- Whether anything follows the body. -/
def Cut.hasTail (c : Cut) : Bool := c.query.isSome || c.fragment.isSome

/-- The query with all that may not stand encoded. -/
def Cut.queryText (c : Cut) (kind : Kind) : Option String :=
  c.query.map fun q =>
    String.ofList (encode (if kind.isSpecial then specialQuerySet else querySet) (unbroken q))

/-- The fragment with all that may not stand encoded. -/
def Cut.fragmentText (c : Cut) : Option String :=
  c.fragment.map fun f => String.ofList (encode fragmentSet (unbroken f))

/-! ### The authority -/

/-- The parts of a list before and after the last `sep`; `none` if it holds none. -/
def splitAtLast? (sep : Char) : List Char → Option (List Char × List Char)
  | [] => none
  | c :: cs =>
    match splitAtLast? sep cs with
    | some (a, b) => some (c :: a, b)
    | none => if c = sep then some ([], cs) else none

/-- User and password: the password follows the first colon and is absent if it is empty. -/
def readUser (cs : List Char) : String × Option String :=
  let user := String.ofList (encode userSet (cs.takeWhile (· != ':')))
  match cs.dropWhile (· != ':') with
  | [] | [_] => (user, none)
  | _ :: password => (user, some (String.ofList (encode userSet password)))

/-- The host at the front of a text, up to a colon outside of brackets, and what follows. -/
def spanHost : (inside : Bool) → List Char → List Char × List Char
  | _, [] => ([], [])
  | inside, c :: cs =>
    if c = ':' ∧ !inside then ([], c :: cs)
    else
      let inside := if c = '[' then true else if c = ']' then false else inside
      let (host, rest) := spanHost inside cs
      (c :: host, rest)

/-- The digits of a port, and what follows: nothing, or a text that begins with a backslash. A
port without digits is none. -/
def readPort : (port : Option Nat) → List Char → Except Error (Option Nat × List Char)
  | port, [] => .ok (port, [])
  | port, c :: cs =>
    match decimalDigit? c with
    | some d =>
      let n := 10 * port.getD 0 + d
      if n < 65536 then readPort (some n) cs else .error .invalidPort
    | none => if c = '\\' then .ok (port, c :: cs) else .error .invalidPort

/-- The host of an authority; within a scheme of the web it must not be empty. -/
def readHost (kind : Kind) (cs : List Char) : Except Error (Option Host) :=
  if kind.isSpecial then
    if cs = [] then .error .emptyHost else (Host.ofDomain cs).map some
  else Host.ofOpaque cs

/-- Host and port, and what of the text follows them. A port needs a host; the scheme's own port
is left out. -/
def readHostPort (scheme : String) (cs : List Char) :
    Except Error (Option Host × Option UInt16 × List Char) := do
  let (hostText, rest) := spanHost false cs
  let host ← readHost (Kind.ofScheme scheme) hostText
  match rest with
  | [] => .ok (host, none, [])
  | _ :: digits =>
    if host.isNone then .error .emptyHost
    else
      let (port, rest) ← readPort none digits
      let port := port.map UInt16.ofNat
      .ok (host, if port = knownPort? scheme then none else port, rest)

/-- Reads what follows the two slashes: the authority, and the text of the path. `hasTail` says
that a query or a fragment follows. A user needs a host. -/
def readAuthority (scheme : String) (cs : List Char) (hasTail : Bool) :
    Except Error (Authority × List Char) := do
  let kind := Kind.ofScheme scheme
  let text := cs.takeWhile fun c => !isSlash kind c
  let after := cs.dropWhile fun c => !isSlash kind c
  let ((user, password), hostPort) := match splitAtLast? '@' text with
    | some (u, rest) => (readUser u, rest)
    | none => (("", none), text)
  if text = ['@'] ∧ (!after.isEmpty || hasTail) then .error .emptyHost
  else
    let (host, port, rest) ← readHostPort scheme hostPort
    if host.isNone ∧ (user ≠ "" ∨ password.isSome) then .error .emptyHost
    else .ok (⟨user, password, host, port⟩, rest ++ after)

/-! ### Targets -/

/-- The path that follows an authority. Within a scheme of the web it begins with a slash; within
any other it may be empty. -/
def pathAfterAuthority (kind : Kind) (cs : List Char) : List Char :=
  match cs with
  | [] => if kind.isSpecial then ['/'] else []
  | c :: rest => if isSlash kind c then (readPath kind rest).1 else (readPath kind cs).1

/-- What follows the slash at the front of a text, if there is one. -/
def afterSlash? (cs : List Char) : Option (List Char) :=
  match cs.dropWhile isBreak with
  | c :: rest => if isSlash .file c then some rest else none
  | [] => none

/-- The host at the front of a text, and the path that follows. The letter of a drive belongs to the
path, and `localhost` is no host. Without a host the path keeps its slash, so that it begins with an
empty segment. -/
def readFileHost (cs : List Char) : Except Error (Option Host × List Char) := do
  let text := unbroken (cs.takeWhile fun c => !isSlash .file c)
  let after := cs.dropWhile fun c => !isSlash .file c
  if isDrive text then return (none, cs)
  else if text.isEmpty then return (none, after)
  else
    let host ← Host.ofDomain text
    return if host = .name "localhost" then (none, after) else (some host, after.drop 1)

/-- A target of the scheme of files. -/
def readFile (c : Cut) : Except Error Url := do
  let (host, path) ← match afterSlash? c.body with
    | none => .ok (none, c.body)
    | some rest =>
      match afterSlash? rest with
      | none => .ok (none, rest)
      | some rest => readFileHost rest
  let (path, keepsHost) := readPath .file path
  let authority : Authority := ⟨"", none, if keepsHost then host else none, none⟩
  .ok ⟨"file", some authority, String.ofList path, c.queryText .file, c.fragmentText⟩

/-- A target with an authority. -/
def readWithAuthority (scheme : String) (c : Cut) (cs : List Char) : Except Error Url := do
  let kind := Kind.ofScheme scheme
  let (authority, path) ← readAuthority scheme cs c.hasTail
  .ok ⟨scheme, some authority, String.ofList (pathAfterAuthority kind path), c.queryText kind,
    c.fragmentText⟩

/-- A target of a scheme without rules of its own. -/
def readOther (scheme : String) (c : Cut) : Except Error Url :=
  match c.body with
  | '/' :: '/' :: rest => readWithAuthority scheme c rest
  | '/' :: rest =>
    .ok ⟨scheme, none, String.ofList (readPath .other rest).1, c.queryText .other, c.fragmentText⟩
  | body =>
    .ok ⟨scheme, none, String.ofList (encode controlSet body), c.queryText .other, c.fragmentText⟩

def parse (s : String) : Except Error Url :=
  match takeScheme? (trimmed s.toList) with
  | none => .error .noScheme
  | some (scheme, rest) =>
    match Kind.ofScheme scheme with
    | .file => readFile (cutTail rest)
    | .web =>
      let c := cutTail (unbroken rest)
      readWithAuthority scheme c (c.body.dropWhile (isSlash .web))
    | .other => readOther scheme (cutTail (unbroken rest))

end TrafficFeed.Url
