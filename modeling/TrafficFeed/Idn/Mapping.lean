import TrafficFeed.Idn.Table.Mapping
import TrafficFeed.Text.Span

/-!
# The mapping of characters

Every character of a domain name is kept, left out, replaced or refused before anything else is
looked at. Upper case goes over to lower case, and compatibility forms to their plain ones.
-/

namespace TrafficFeed.Idn

open TrafficFeed.Text

/-- What becomes of the characters of a span. -/
inductive Rule where
  | keep
  | drop
  /-- The characters go over to those from `target` on, in order. -/
  | shift (target : Nat)
  /-- Of each pair the first goes over to the second. -/
  | pairs
  | replace (by_ : List Char)
  deriving Repr

/-- A span and the rule for its characters. -/
structure Entry where
  span : Span
  rule : Rule
  deriving Repr

namespace Entry

/-- Reads an entry of the table. -/
def ofChars? : List Char → Option Entry
  | [] => none
  | letter :: cs =>
    match letter, cut '>' cs with
    | 'k', [span] => some ⟨Span.ofChars span, .keep⟩
    | 'i', [span] => some ⟨Span.ofChars span, .drop⟩
    | 'p', [span] => some ⟨Span.ofChars span, .pairs⟩
    | 's', [span, target] => some ⟨Span.ofChars span, .shift (Span.code target)⟩
    | 'm', [span, codes] =>
      some ⟨Span.ofChars span, .replace ((cut '.' codes).map fun c => Char.ofNat (Span.code c))⟩
    | _, _ => none

/-- The characters that a character of the entry's span goes over to. -/
def apply (e : Entry) (c : Char) : List Char :=
  match e.rule with
  | .keep => [c]
  | .drop => []
  | .shift target => [Char.ofNat (target + (c.toNat - e.span.first))]
  | .pairs => if (c.toNat - e.span.first) % 2 = 0 then [Char.ofNat (c.toNat + 1)] else [c]
  | .replace chars => chars

end Entry

/-- All entries, in the order of their spans. -/
def mapping : Array Entry :=
  ([Table.scripts, Table.symbols, Table.ideographs, Table.supplement, Table.extension].flatMap
    fun t => (Span.entries t).filterMap Entry.ofChars?).toArray

/-- The entry of a code point among those from `lo` up to but not including `hi`. -/
def findEntry (entries : Array Entry) (n lo hi : Nat) : Option Entry :=
  if hi ≤ lo then none
  else
    let mid := (lo + hi) / 2
    match entries[mid]? with
    | none => none
    | some e =>
      if n < e.span.first then findEntry entries n lo mid
      else if e.span.last < n then findEntry entries n (mid + 1) hi
      else some e
termination_by hi - lo

/-- What a character goes over to; `none` if it is not allowed in a domain name. The ASCII
characters stand apart: capital letters go over to small ones, and all others are kept. -/
def mapChar (c : Char) : Option (List Char) :=
  if c.toNat < 0x80 then some [c.toLower]
  else (findEntry mapping c.toNat 0 mapping.size).map (·.apply c)

/-- Whether a character is allowed and stays as it is. -/
def isStable (c : Char) : Bool := mapChar c == some [c]

/-- What a text goes over to; `none` if it holds a character that is not allowed. -/
def mapText (cs : List Char) : Option (List Char) := do
  let parts ← cs.mapM mapChar
  some parts.flatten

end TrafficFeed.Idn
