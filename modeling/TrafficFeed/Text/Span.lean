import TrafficFeed.Text.Cut
import TrafficFeed.Text.Hex
import TrafficFeed.Text.Numeral

/-!
# Spans of code points

The reading of the tables: entries with blanks between them, each a code point or a first and a
last one in hexadecimal, with further numbers after a mark.
-/

namespace TrafficFeed.Text

/-- The code points from `first` to `last`. -/
structure Span where
  first : Nat
  last : Nat
  deriving Repr, DecidableEq

def Span.contains (s : Span) (n : Nat) : Bool := s.first ≤ n && n ≤ s.last

namespace Span

/-- The entries of a table. -/
def entries (table : String) : List (List Char) :=
  (cutWhere (fun c => c = ' ' ∨ c = '\n') table.toList).filter (!·.isEmpty)

/-- A number of a table. -/
def code (cs : List Char) : Nat := (ofDigits? hexDigit? 16 cs).getD 0

/-- A span of a table. -/
def ofChars (cs : List Char) : Span :=
  match cut '-' cs with
  | [first, last] => ⟨code first, code last⟩
  | _ => ⟨code cs, code cs⟩

/-- The spans of a table that lists spans alone. -/
def ofTable (table : String) : List Span := (entries table).map ofChars

end Span

def memSpans (spans : List Span) (c : Char) : Bool := spans.any (·.contains c.toNat)

end TrafficFeed.Text
