import TrafficFeed.Text.Hex
import TrafficFeed.Text.Numeral

/-!
# Internet addresses

Addresses of both families and the endpoints of connections. Readers follow the common text
forms: four decimal octets without leading zeros; eight hexadecimal groups, of which one run of
zeros may be left out and the last two may be written as octets; an endpoint adds a port. Texts
are written in the shortest form: the first longest run of two or more zero groups is left out.
-/

namespace TrafficFeed.Net

open TrafficFeed.Text

/-- An address of the fourth version: four octets. -/
structure Ipv4 where
  a : UInt8
  b : UInt8
  c : UInt8
  d : UInt8
  deriving DecidableEq, Repr

/-- An address of the sixth version: eight groups of sixteen bits. -/
structure Ipv6 where
  groups : List UInt16
  size : groups.length = 8
  deriving DecidableEq, Repr

inductive Ip where
  | v4 (ip : Ipv4)
  | v6 (ip : Ipv6)
  deriving DecidableEq, Repr

/-- An endpoint of a connection. -/
structure Socket where
  ip : Ip
  port : UInt16
  deriving DecidableEq, Repr

/-! ### Writing -/

/-- The four octets in decimal. -/
def Ipv4.toText (ip : Ipv4) : String :=
  ".".intercalate [toString ip.a.toNat, toString ip.b.toNat, toString ip.c.toNat,
    toString ip.d.toNat]

/-- The octets as two groups. -/
def Ipv4.groups (ip : Ipv4) : List UInt16 :=
  [ip.a.toUInt16 * 256 + ip.b.toUInt16, ip.c.toUInt16 * 256 + ip.d.toUInt16]

/-- The length of the run of zeros at the front of a list. -/
def zeroRun (gs : List UInt16) : Nat := (gs.takeWhile (· == 0)).length

/-- Where the first longest run of zeros begins, and its length. -/
def longestZeroRun : Nat → List UInt16 → Nat × Nat
  | i, [] => (i, 0)
  | i, g :: gs =>
    let here := zeroRun (g :: gs)
    let later := longestZeroRun (i + 1) gs
    if later.2 ≤ here then (i, here) else later

/-- Groups in hexadecimal, with colons between them. -/
def groupsText (gs : List UInt16) : String := ":".intercalate (gs.map fun g => hex g.toNat)

/-- Groups with the first longest run of two or more zeros left out. -/
def shortGroups (gs : List UInt16) : String :=
  let (i, n) := longestZeroRun 0 gs
  if 2 ≤ n then groupsText (gs.take i) ++ "::" ++ groupsText (gs.drop (i + n)) else groupsText gs

/-- The shortest form; an address that stands for one of version four ends in its octets. -/
def Ipv6.toText (ip : Ipv6) : String :=
  match ip.groups with
  | [0, 0, 0, 0, 0, 0xFFFF, g, h] =>
    "::ffff:" ++ (Ipv4.mk (g / 256).toUInt8 g.toUInt8 (h / 256).toUInt8 h.toUInt8).toText
  | gs => shortGroups gs

def Ip.toText : Ip → String
  | .v4 ip => ip.toText
  | .v6 ip => ip.toText

/-! ### Reading -/

/-- The digits at the front of a text as values, and what follows them. -/
def spanDigits (digit : Char → Option Nat) : List Char → List Nat × List Char
  | [] => ([], [])
  | c :: cs =>
    match digit c with
    | some d => let r := spanDigits digit cs; (d :: r.1, r.2)
    | none => ([], c :: cs)

/-- A decimal number below `bound` at the front of a text. -/
def decimal? (bound : Nat) (cs : List Char) : Option (Nat × List Char) :=
  match spanDigits decimalDigit? cs with
  | ([], _) => none
  | (ds, rest) =>
    let n := ds.foldl (10 * · + ·) 0
    if n < bound then some (n, rest) else none

/-- An octet: up to three digits, without a leading zero. -/
def octet? (cs : List Char) : Option (UInt8 × List Char) :=
  match spanDigits decimalDigit? cs with
  | ([], _) => none
  | (ds, rest) =>
    let n := ds.foldl (10 * · + ·) 0
    if ds.length ≤ 3 ∧ n < 256 ∧ ¬ (ds.head? = some 0 ∧ 1 < ds.length) then
      some (UInt8.ofNat n, rest)
    else none

/-- A group: up to four hexadecimal digits. -/
def group? (cs : List Char) : Option (UInt16 × List Char) :=
  match spanDigits hexDigit? cs with
  | ([], _) => none
  | (ds, rest) =>
    if ds.length ≤ 4 then some (UInt16.ofNat (ds.foldl (16 * · + ·) 0), rest) else none

/-- The text after a given character. -/
def after? (c : Char) : List Char → Option (List Char)
  | [] => none
  | d :: cs => if d = c then some cs else none

/-- An address of version four at the front of a text. -/
def Ipv4.read? (cs : List Char) : Option (Ipv4 × List Char) := do
  let (a, cs) ← octet? cs
  let (b, cs) ← octet? (← after? '.' cs)
  let (c, cs) ← octet? (← after? '.' cs)
  let (d, cs) ← octet? (← after? '.' cs)
  some (⟨a, b, c, d⟩, cs)

/-- Groups with colons between them, at most `limit`, of which the last two may be written as
octets; also tells whether they are. `first` says that no group has been read yet. -/
def readGroups : (limit : Nat) → (first : Bool) → List Char → List UInt16 × Bool × List Char
  | 0, _, cs => ([], false, cs)
  | limit + 1, first, cs =>
    match (if first then some cs else after? ':' cs) with
    | none => ([], false, cs)
    | some inner =>
      match (if limit = 0 then none else Ipv4.read? inner) with
      | some (ip, rest) => (ip.groups, true, rest)
      | none =>
        match group? inner with
        | none => ([], false, cs)
        | some (g, rest) =>
          let (gs, octets, rest) := readGroups limit false rest
          (g :: gs, octets, rest)

/-- An address of version six at the front of a text. A run left out stands for at least one
group, and octets may only come at the end. -/
def Ipv6.read? (cs : List Char) : Option (Ipv6 × List Char) :=
  let (front, octets, rest) := readGroups 8 true cs
  if h : front.length = 8 then some (⟨front, h⟩, rest)
  else if octets then none
  else do
    let rest ← after? ':' (← after? ':' rest)
    let (back, _, rest) := readGroups (7 - front.length) true rest
    let groups := front ++ List.replicate (8 - front.length - back.length) 0 ++ back
    if h : groups.length = 8 then some (⟨groups, h⟩, rest) else none

/-- A reader's result if it has read the whole text. -/
def whole? {α : Type} : Option (α × List Char) → Option α
  | some (a, []) => some a
  | _ => none

def Ip.ofText? (s : String) : Option Ip :=
  match whole? (Ipv4.read? s.toList) with
  | some ip => some (.v4 ip)
  | none => (whole? (Ipv6.read? s.toList)).map .v6

/-- A colon and a port. -/
def port? (cs : List Char) : Option (UInt16 × List Char) := do
  let (n, rest) ← decimal? 65536 (← after? ':' cs)
  some (UInt16.ofNat n, rest)

/-- An endpoint of version four: address, colon, port. -/
def Socket.readV4? (cs : List Char) : Option (Socket × List Char) := do
  let (ip, rest) ← Ipv4.read? cs
  let (port, rest) ← port? rest
  some (⟨.v4 ip, port⟩, rest)

/-- An endpoint of version six: address in brackets, colon, port. A zone number after the
address is read and dropped. -/
def Socket.readV6? (cs : List Char) : Option (Socket × List Char) := do
  let (ip, rest) ← Ipv6.read? (← after? '[' cs)
  let rest ← match after? '%' rest with
    | none => some rest
    | some zone => (decimal? UInt32.size zone).map Prod.snd
  let (port, rest) ← port? (← after? ']' rest)
  some (⟨.v6 ip, port⟩, rest)

def Socket.ofText? (s : String) : Option Socket :=
  match whole? (Socket.readV4? s.toList) with
  | some socket => some socket
  | none => whole? (Socket.readV6? s.toList)

end TrafficFeed.Net
