import TrafficFeed.Idn.Domain
import TrafficFeed.Net.Numeric
import TrafficFeed.Url.Basic
import TrafficFeed.Url.Percent

/-!
# Hosts

The reading of a host. Within a scheme of the web a name is a domain name, and one whose last
part is a number must be an address of version four, whose parts may be octal or hexadecimal and
may be fewer than four. Within any other scheme a name is any text without separators.
-/

namespace TrafficFeed.Url

open TrafficFeed.Net TrafficFeed.Text TrafficFeed.Idn

/-! ### Addresses of version four -/

/-- A part of an address of version four. The mark of a base without digits is zero. -/
def ipv4Number? (cs : List Char) : Option Nat :=
  if cs = [] then none
  else
    let (base, digits) := baseAndDigits cs
    ofDigits? (digitBelow? base) base digits

/-- Whether the last part of a name is a number, a point at the end not regarded. -/
def endsInNumber (name : List Char) : Bool :=
  let parts := (cut '.' name).reverse
  let last := match parts with
    | [] :: [] => []
    | [] :: last :: _ => last
    | last :: _ => last
    | [] => []
  (!last.isEmpty && last.all fun c => (decimalDigit? c).isSome) || (ipv4Number? last).isSome

/-- The address of version four that a name writes. -/
def readIpv4? (name : List Char) : Option Ipv4 := do
  let parts := cut '.' name
  let parts := match parts.reverse with
    | [] :: front => front.reverse
    | _ => parts
  Ipv4.ofNumbers? (← parts.mapM ipv4Number?)

/-! ### Addresses of version six -/

/-- Four decimal octets without leading zeros, which end the text, as two groups. -/
def finalOctets? (cs : List Char) : Option (List UInt16) :=
  (whole? (Ipv4.read? cs)).map Ipv4.groups

/-- Up to four hexadecimal digits at the front of a text. -/
def takeGroup : (most : Nat) → List Char → List Nat × List Char
  | 0, cs => ([], cs)
  | _, [] => ([], [])
  | most + 1, c :: cs =>
    match hexDigit? c with
    | some d => let (ds, rest) := takeGroup most cs; (d :: ds, rest)
    | none => ([], c :: cs)

/-- The groups of an address, of which at most `left` may still come, and the place where a run
is left out. `size` is the number of groups read. -/
def readGroups6 : (left size : Nat) → (gap : Option Nat) → List Char →
    Option (List UInt16 × Option Nat)
  | _, _, gap, [] => some ([], gap)
  | 0, _, _, _ => none
  | left + 1, size, gap, ':' :: cs =>
    if gap.isSome then none
    else do
      let (gs, gap) ← readGroups6 left (size + 1) (some (size + 1)) cs
      some (0 :: gs, gap)
  | left + 1, size, gap, cs =>
    match takeGroup 4 cs with
    | ([], _) => none
    | (_, '.' :: _) =>
      if size ≤ 6 then (finalOctets? cs).map fun gs => (gs, gap) else none
    | (ds, rest) =>
      let g := UInt16.ofNat (ds.foldl (16 * · + ·) 0)
      match rest with
      | [] => some ([g], gap)
      | [':'] => none
      | ':' :: rest => do
        let (gs, gap) ← readGroups6 left (size + 1) gap rest
        some (g :: gs, gap)
      | _ => none

/-- The address of version six that a text writes. The group left out counts as one zero, and
the run is filled up to eight groups. -/
def readIpv6? (cs : List Char) : Option Ipv6 := do
  let (groups, gap) ← match cs with
    | ':' :: ':' :: rest => do
      let (gs, gap) ← readGroups6 7 1 (some 1) rest
      some (0 :: gs, gap)
    | ':' :: _ => none
    | [] | [_] => none
    | _ => readGroups6 8 0 none cs
  let full := match gap with
    | some i => groups.take i ++ List.replicate (8 - groups.length) 0 ++ groups.drop i
    | none => groups
  if h : full.length = 8 then some ⟨full, h⟩ else none

/-! ### Hosts -/

/-- The text between brackets; `none` if it does not end in one. -/
def inBrackets? (cs : List Char) : Option (List Char) :=
  match cs.reverse with
  | ']' :: inner => some inner.reverse
  | _ => none

/-- A host in brackets, without the opening one. -/
def readBrackets (cs : List Char) : Except Error Host :=
  match (inBrackets? cs).bind readIpv6? with
  | some ip => .ok (.ipv6 ip)
  | none => .error .invalidIpv6

/-- The host that a text writes within a scheme of the web or of files. -/
def Host.ofDomain (cs : List Char) : Except Error Host :=
  match cs with
  | '[' :: rest => readBrackets rest
  | _ =>
    match (decode? cs).bind fun s => toAscii? s.toList with
    | none => .error .invalidDomain
    | some domain =>
      if domain = [] then .error .emptyHost
      else if endsInNumber domain then
        match readIpv4? domain with
        | some ip => .ok (.ipv4 ip)
        | none => .error .invalidIpv4
      else .ok (.name (String.ofList domain))

/-- The characters that separate parts, none of which a host may hold. -/
def isSeparator (c : Char) : Bool :=
  c.toNat == 0 || c == '\t' || c == '\n' || c == '\r' || " #/:<>?@[\\]^|".toList.contains c

/-- The host that a text writes within any other scheme; an empty text is none. -/
def Host.ofOpaque (cs : List Char) : Except Error (Option Host) :=
  match cs with
  | [] => .ok none
  | '[' :: rest => (readBrackets rest).map some
  | _ =>
    if cs.any isSeparator then .error .invalidHostCharacter
    else .ok (some (.name (String.ofList (encode controlSet cs))))

end TrafficFeed.Url
