import TrafficFeed.Url.Basic
import TrafficFeed.Url.Percent

/-!
# Paths

A path is read segment by segment. A segment of one point is left out, and one of two points takes
the segment before it away, unless that is the letter of a drive. Tabs and line ends do not count.
Within the scheme of files the letter of a drive at the front is written with a colon; if a tab or
line end sets it off from what follows, that becomes a segment by itself.
-/

namespace TrafficFeed.Url

/-! ### Tabs and line ends -/

/-- Whether a character is a tab or a line end. -/
def isBreak (c : Char) : Bool := c == '\t' || c == '\n' || c == '\r'

/-- A text without tabs and line ends. -/
def unbroken (cs : List Char) : List Char := cs.filter fun c => !isBreak c

/-! ### Segments -/

/-- Whether a character separates segments. -/
def isSlash (kind : Kind) (c : Char) : Bool := c == '/' || (kind.isSpecial && c == '\\')

/-- The segments of a text. -/
def segments (kind : Kind) : List Char → List (List Char)
  | [] => [[]]
  | c :: cs =>
    if isSlash kind c then [] :: segments kind cs
    else
      match segments kind cs with
      | [] => [[c]]
      | s :: ss => (c :: s) :: ss

/-- A point, which may be encoded, at the front of a segment; gives what follows. -/
def afterDot? : List Char → Option (List Char)
  | '.' :: cs => some cs
  | '%' :: '2' :: 'e' :: cs | '%' :: '2' :: 'E' :: cs => some cs
  | _ => none

def isDot (s : List Char) : Bool := afterDot? s == some []

def isDoubleDot (s : List Char) : Bool := (afterDot? s).bind afterDot? == some []

def isLetter (c : Char) : Bool := ('a' ≤ c && c ≤ 'z') || ('A' ≤ c && c ≤ 'Z')

/-- Whether a segment is the letter of a drive: a letter and a colon or bar. -/
def isDrive : List Char → Bool
  | [a, b] => isLetter a && (b == ':' || b == '|')
  | _ => false

/-- Whether a segment begins with the letter of a drive, which ends there or before a
backslash. -/
def startsWithDrive : List Char → Bool
  | a :: b :: rest =>
    isLetter a && (b == ':' || b == '|') && (rest.isEmpty || rest.head? == some '\\')
  | _ => false

/-! ### Reading -/

/-- The segments read so far, the last one first, and whether the host still stands. -/
structure PathState where
  read : List (List Char)
  keepsHost : Bool

/-- Takes away the last segment, unless it is the letter of a drive. -/
def dropSegment : List (List Char) → List (List Char)
  | [] => []
  | s :: ss => if startsWithDrive s then s :: ss else ss

/-- A segment that begins with the letter of a drive and goes on behind a tab or line end. -/
def splitDrive? (s : List Char) : Option (List Char × List Char) :=
  match s.dropWhile isBreak with
  | a :: cs =>
    match cs.dropWhile isBreak with
    | ':' :: c :: rest =>
      if isLetter a && isBreak c && !(unbroken rest).isEmpty then some ([a, ':'], unbroken rest)
      else none
    | _ => none
  | [] => none

/-- Takes a first segment within the scheme of files. The letter of a drive stands in place of a
host. -/
def firstOfFile (st : PathState) (s : List Char) : PathState :=
  match splitDrive? s, unbroken s with
  | some (drive, rest), _ => ⟨[encode pathSet rest, drive], st.keepsHost⟩
  | none, [a, b] =>
    if isDrive [a, b] then ⟨[[a, ':']], false⟩ else ⟨[encode pathSet [a, b]], st.keepsHost⟩
  | none, cs => ⟨[encode pathSet cs], st.keepsHost⟩

/-- Takes one segment; `isLast` says whether the text ends with it. -/
def stepSegment (kind : Kind) (st : PathState) (s : List Char) (isLast : Bool) : PathState :=
  let close (read : List (List Char)) : List (List Char) := if isLast then [] :: read else read
  if isDoubleDot (unbroken s) then ⟨close (dropSegment st.read), st.keepsHost⟩
  else if isDot (unbroken s) then ⟨close st.read, st.keepsHost⟩
  else
    match kind, st.read with
    | .file, [] => firstOfFile st s
    | _, _ => ⟨encode pathSet (unbroken s) :: st.read, st.keepsHost⟩

/-- Takes segments one after the other. -/
def runSegments (kind : Kind) : PathState → List (List Char) → PathState
  | st, [] => st
  | st, [s] => stepSegment kind st s true
  | st, s :: ss => runSegments kind (stepSegment kind st s false) ss

/-- The path whose segments follow its first slash, and whether the host still stands. Within the
scheme of files a path begins with one slash only. -/
def readPath (kind : Kind) (cs : List Char) : List Char × Bool :=
  let st := runSegments kind ⟨[], true⟩ (segments kind cs)
  let body := ['/'].intercalate st.read.reverse
  let body := if kind = .file then body.dropWhile (· == '/') else body
  ('/' :: body, st.keepsHost)

end TrafficFeed.Url
