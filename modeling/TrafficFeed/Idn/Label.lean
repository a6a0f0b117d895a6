import TrafficFeed.Idn.Mapping
import TrafficFeed.Idn.Normal
import TrafficFeed.Idn.Punycode

/-!
# Labels

The parts of a domain name between its points. A label is valid if it is in composed form, holds
only characters that the mapping leaves alone, does not begin with a mark, and has joiners only
where they make a difference. If any label runs from right to left, all labels must keep to the
rule that makes their direction clear.
-/

namespace TrafficFeed.Idn

open TrafficFeed.Text

/-! ### Joiners -/

/-- How a letter joins its neighbours. -/
inductive Joining where
  | left
  | right
  | dual
  | transparent
  | none
  deriving DecidableEq, Repr

def joinLeftSpans : List Span := Span.ofTable Table.joinLeft

def joinRightSpans : List Span := Span.ofTable Table.joinRight

def joinDualSpans : List Span := Span.ofTable Table.joinDual

def joinTransparentSpans : List Span := Span.ofTable Table.joinTransparent

/-- How a character joins its neighbours. -/
def joining (c : Char) : Joining :=
  if memSpans joinDualSpans c then .dual
  else if memSpans joinRightSpans c then .right
  else if memSpans joinTransparentSpans c then .transparent
  else if memSpans joinLeftSpans c then .left
  else .none

/-- The character that keeps its neighbours apart. -/
def nonJoiner : Char := Char.ofNat 0x200C

/-- The character that joins its neighbours. -/
def joiner : Char := Char.ofNat 0x200D

/-- The combining class of the marks that take the vowel from a letter. -/
def virama : Nat := 9

/-- The first letter that joining does not pass over, and how it joins. -/
def nextJoining (cs : List Char) : Joining :=
  match cs.dropWhile fun c => joining c = .transparent with
  | [] => .none
  | c :: _ => joining c

/-- Whether a joiner may stand after `before`, held in reverse, and before `after`. -/
def joinerAllowed (c : Char) (before after : List Char) : Bool :=
  let afterVirama := match before with
    | p :: _ => combiningClass p == virama
    | [] => false
  afterVirama ||
    (c == nonJoiner &&
      (nextJoining before == .left || nextJoining before == .dual) &&
      (nextJoining after == .right || nextJoining after == .dual))

/-- Whether all joiners stand where they may; `before` is held in reverse. -/
def joinersAllowed (before : List Char) : List Char → Bool
  | [] => true
  | c :: cs =>
    (if c = joiner ∨ c = nonJoiner then joinerAllowed c before cs else true) &&
      joinersAllowed (c :: before) cs

/-! ### Direction -/

/-- The classes of characters as regards direction. -/
inductive Direction where
  | leftToRight
  | rightToLeft
  | arabicNumber
  | europeanNumber
  | mark
  | neutral
  | separator
  deriving DecidableEq, Repr

def rightToLeftSpans : List Span := Span.ofTable Table.rightToLeft

def arabicNumberSpans : List Span := Span.ofTable Table.arabicNumbers

def europeanNumberSpans : List Span := Span.ofTable Table.europeanNumbers

def directionMarkSpans : List Span := Span.ofTable Table.directionMarks

def neutralSpans : List Span := Span.ofTable Table.neutrals

def separatorSpans : List Span := Span.ofTable Table.separators

/-- The class of a character as regards direction. -/
def direction (c : Char) : Direction :=
  if memSpans rightToLeftSpans c then .rightToLeft
  else if memSpans arabicNumberSpans c then .arabicNumber
  else if memSpans europeanNumberSpans c then .europeanNumber
  else if memSpans directionMarkSpans c then .mark
  else if memSpans neutralSpans c then .neutral
  else if memSpans separatorSpans c then .separator
  else .leftToRight

/-- Whether a label makes the other labels keep to the rule of direction. No ASCII character makes
them do so. -/
def runsRightToLeft (label : List Char) : Bool :=
  label.any fun c =>
    0x80 ≤ c.toNat && (direction c == .rightToLeft || direction c == .arabicNumber)

/-- The rule of direction. The first character fixes the direction of the label. One from left to
right holds no letters or digits of the other direction and ends, marks apart, in a letter or
digit; one from right to left holds no letters of the other direction, not both kinds of digits,
and ends likewise. -/
def directionClear (label : List Char) : Bool :=
  let ds := label.map direction
  let last := (ds.reverse.dropWhile (· == .mark)).head?
  match ds with
  | [] => true
  | .leftToRight :: _ =>
    ds.all (fun d => d == .leftToRight || d == .europeanNumber || d == .mark || d == .neutral) &&
      (last == some .leftToRight || last == some .europeanNumber)
  | .rightToLeft :: _ =>
    ds.all (fun d => d != .leftToRight && d != .separator) &&
      (last == some .rightToLeft || last == some .europeanNumber || last == some .arabicNumber) &&
      !(ds.contains .europeanNumber && ds.contains .arabicNumber)
  | _ => false

/-! ### Validity -/

def markSpans : List Span := Span.ofTable Table.marks

/-- Whether a character is a mark. No ASCII character is one. -/
def isMark (c : Char) : Bool := 0x80 ≤ c.toNat && memSpans markSpans c

/-- Whether a label may be part of a domain name, apart from the rule of direction. -/
def validLabel (label : List Char) : Bool :=
  composed label == label &&
    label.all isStable &&
    (match label with
      | [] => true
      | c :: _ => !isMark c) &&
    joinersAllowed [] label

/-! ### The form in ASCII -/

/-- What a label that is written in ASCII begins with. -/
def asciiMark : List Char := ['x', 'n', '-', '-']

def isAscii (cs : List Char) : Bool := cs.all (·.toNat < 0x80)

/-- The greatest size of a label that is written in ASCII. -/
def maxEncoded : Nat := 1000

/-- The greatest size of the text that is read back as a label. -/
def maxDecoded : Nat := 2000

/-- The label that a part of a domain name stands for. A part that begins with the mark is read
back; it must be ASCII, and the label must not. -/
def readLabel (part : List Char) : Option (List Char) :=
  if asciiMark.isPrefixOf part then
    let text := part.drop asciiMark.length
    if isAscii part ∧ text.length ≤ maxDecoded then
      match Punycode.decode text with
      | none => none
      | some label => if isAscii label then none else some label
    else none
  else some part

def writeLabel (label : List Char) : Option (List Char) :=
  if isAscii label then some label
  else if label.length ≤ maxEncoded then some (asciiMark ++ Punycode.encode label)
  else none

end TrafficFeed.Idn
