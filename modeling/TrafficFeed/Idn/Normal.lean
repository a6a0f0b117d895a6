import TrafficFeed.Idn.Table.Class
import TrafficFeed.Idn.Table.Composition
import TrafficFeed.Text.Span

/-!
# Composed form

A text is taken apart into plain characters and marks, the marks on one character are put into
the order of their classes, and then as much as possible is composed again. The result does not
depend on how the accents of a text were written.
-/

namespace TrafficFeed.Idn

open TrafficFeed.Text

/-! ### Combining classes -/

/-- The combining classes other than 0, by spans. -/
def combiningClasses : List (Span × Nat) :=
  (Span.entries Table.combiningClasses).filterMap fun cs =>
    match cut ':' cs with
    | [k, span] => (ofDigits? decimalDigit? 10 k).map fun k => (Span.ofChars span, k)
    | _ => none

/-- The combining class of a character; 0 if it is no combining mark. -/
def combiningClass (c : Char) : Nat :=
  if c.toNat < 0x300 then 0
  else ((combiningClasses.find? (·.1.contains c.toNat)).map Prod.snd).getD 0

/-! ### Taking apart and composing two characters -/

/-- A composed character and its two parts. -/
structure Composition where
  whole : Char
  first : Char
  mark : Char
  deriving Repr

/-- The composed characters of the table. -/
def compositions : List Composition :=
  (Span.entries Table.compositions).filterMap fun cs =>
    match cut '=' cs with
    | [whole, parts] =>
      match cut '.' parts with
      | [first, mark] =>
        some ⟨Char.ofNat (Span.code whole), Char.ofNat (Span.code first),
          Char.ofNat (Span.code mark)⟩
      | _ => none
    | _ => none

namespace Hangul

def firstSyllable : Nat := 0xAC00

def firstLead : Nat := 0x1100

def firstVowel : Nat := 0x1161

/-- The code point before the first tail. -/
def beforeTail : Nat := 0x11A7

def leads : Nat := 19

def vowels : Nat := 21

/-- How many tails there are, none at all being one of them. -/
def tails : Nat := 28

/-- The parts of a syllable: one of two parts is a lead and a vowel, one of three is a syllable
of two and a tail. -/
def parts? (c : Char) : Option (Char × Char) :=
  let n := c.toNat
  if firstSyllable ≤ n ∧ n < firstSyllable + leads * vowels * tails then
    let s := n - firstSyllable
    if s % tails = 0 then
      some (Char.ofNat (firstLead + s / tails / vowels),
        Char.ofNat (firstVowel + s / tails % vowels))
    else some (Char.ofNat (n - s % tails), Char.ofNat (beforeTail + s % tails))
  else none

/-- The syllable that two parts make. -/
def whole? (a b : Char) : Option Char :=
  let m := a.toNat
  let n := b.toNat
  if firstLead ≤ m ∧ m < firstLead + leads ∧ firstVowel ≤ n ∧ n < firstVowel + vowels then
    some (Char.ofNat (firstSyllable + ((m - firstLead) * vowels + (n - firstVowel)) * tails))
  else if firstSyllable ≤ m ∧ m < firstSyllable + leads * vowels * tails ∧
      (m - firstSyllable) % tails = 0 ∧ beforeTail < n ∧ n < beforeTail + tails then
    some (Char.ofNat (m + (n - beforeTail)))
  else none

end Hangul

/-- The two parts of a composed character. -/
def parts? (c : Char) : Option (Char × Char) :=
  match Hangul.parts? c with
  | some p => some p
  | none => (compositions.find? (·.whole == c)).map fun e => (e.first, e.mark)

/-- The character composed of two. -/
def whole? (a b : Char) : Option Char :=
  match Hangul.whole? a b with
  | some c => some c
  | none => (compositions.find? fun e => e.first == a && e.mark == b).map (·.whole)

/-! ### Texts -/

/-- The plain characters and marks of a character, taken apart at most `depth` times. -/
def decomposeChar : (depth : Nat) → Char → List Char
  | 0, c => [c]
  | depth + 1, c =>
    if c.toNat < 0xC0 then [c]
    else
      match parts? c with
      | some (a, b) => decomposeChar depth a ++ [b]
      | none => [c]

/-- How often a character can be taken apart: no character bears more than three marks. -/
def maxDepth : Nat := 4

/-- Puts a mark into the marks before it, which are held in reverse: it goes before those of a
higher class. -/
def insertMark (m : Char × Nat) : List (Char × Nat) → List (Char × Nat)
  | [] => [m]
  | l :: before => if m.2 ≠ 0 ∧ m.2 < l.2 then l :: insertMark m before else m :: l :: before

/-- The text with the marks on each character in the order of their classes. -/
def orderMarks (cs : List Char) : List (Char × Nat) :=
  (cs.foldl (fun before c => insertMark (c, combiningClass c) before) []).reverse

/-- Composes marks with `starter`. `kept` holds, in reverse, the marks that stay by themselves,
and `last` is the class of the last of them. A mark composes if none of them stands in its way:
none is of its class or of a higher one. -/
def composeFrom (starter : Char) (kept : List Char) (last : Nat) :
    List (Char × Nat) → List Char
  | [] => starter :: kept.reverse
  | (c, k) :: rest =>
    match (if kept.isEmpty ∨ last < k then whole? starter c else none) with
    | some composed => composeFrom composed kept last rest
    | none =>
      if k = 0 then starter :: (kept.reverse ++ composeFrom c [] 0 rest)
      else composeFrom starter (c :: kept) k rest

/-- Composes an ordered text; marks at its front stand by themselves. -/
def compose : List (Char × Nat) → List Char
  | [] => []
  | (c, k) :: rest => if k = 0 then composeFrom c [] 0 rest else c :: compose rest

/-- The composed form of a text. A text of ASCII characters is its own. -/
def composed (cs : List Char) : List Char :=
  if cs.all (·.toNat < 0x80) then cs
  else compose (orderMarks (cs.flatMap (decomposeChar maxDepth)))

end TrafficFeed.Idn
