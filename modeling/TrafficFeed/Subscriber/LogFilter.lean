import TrafficFeed.Log
import TrafficFeed.Text.Ascii
import TrafficFeed.Text.Cut
import TrafficFeed.Text.Numeral
import TrafficFeed.Text.Pattern
import TrafficFeed.Text.Property
import TrafficFeed.Text.Span
import TrafficFeed.Text.Table.Alphanumeric

/-!
# Log filters

Which entries of the log are shown. A filter is a list of rules with commas between them. A rule is
a level for all entries, or the beginning of a source's name, a span in brackets, a field in braces
within the brackets, and the level of the entries that fit. The most particular rule that fits an
entry decides. This program has no spans, so a rule about a span by its name, or about the value of
a field, fits nothing.
-/

namespace TrafficFeed.Log

open TrafficFeed.Text

/-! ### Levels -/

/-- How much is shown: nothing, errors, and so on up to everything. -/
abbrev Verbosity := Nat

/-- The least verbosity at which entries of a level are shown. -/
def Level.verbosity : Level → Verbosity
  | .error => 1
  | .warn => 2
  | .info => 3
  | .debug => 4

/-- The verbosity at which everything is shown. -/
def everything : Verbosity := 5

/-- The verbosity of a word or a number. -/
def readVerbosity? (s : String) : Option Verbosity :=
  match readNumeral UInt64.size s with
  | .ok n => if n ≤ everything then some n else none
  | .error _ =>
    match lower s with
    | "" | "error" => some 1
    | "warn" => some 2
    | "info" => some 3
    | "debug" => some 4
    | "trace" => some 5
    | "off" => some 0
    | _ => none

/-! ### Rules -/

/-- What a rule says of a field: that an entry has it, or also what its value is. -/
structure FieldRule where
  name : String
  hasValue : Bool
  deriving DecidableEq, Repr

/-- A rule of a filter. What it does not mention is left open. -/
structure Rule where
  /-- The beginning of the source's name. -/
  source : Option String
  /-- The name of the span. -/
  span : Option String
  field : Option FieldRule
  verbosity : Verbosity
  deriving DecidableEq, Repr

namespace Rule

/-- The rule that shows entries up to a level. -/
def upTo (v : Verbosity) : Rule := ⟨none, none, none, v⟩

/-! ### Reading -/

/-- The letters and digits of all alphabets. -/
def alphanumericSpans : List Span := Span.ofTable Table.alphanumeric

/-- A character that a source's name may begin with. -/
def canBegin (c : Char) : Bool :=
  c = '-' || c = ':' || c = '_' || memSpans alphanumericSpans c

/-- Whether a text is a number with a plus sign in front, which would be no pattern. -/
def isPositive (cs : List Char) : Bool :=
  let isWord (cs : List Char) : Bool :=
    ["inf", "infinity", "nan"].contains (lower (String.ofList cs))
  let isDigit (c : Char) : Bool := (decimalDigit? c).isSome
  let hasPower (cs : List Char) : Bool :=
    match cs with
    | [] => true
    | c :: rest =>
      let digits := if rest.head? = some '+' || rest.head? = some '-' then rest.tail else rest
      (c = 'e' || c = 'E') && !digits.isEmpty && digits.all isDigit
  match cs with
  | '+' :: cs =>
    let whole := cs.takeWhile isDigit
    match cs.dropWhile isDigit with
    | '.' :: rest =>
      !(whole.isEmpty && (rest.takeWhile isDigit).isEmpty) && hasPower (rest.dropWhile isDigit)
    | rest => isWord cs || (!whole.isEmpty && hasPower rest)
  | _ => false

/-- Reads what a rule says of a field: a name, or a name and after an equals sign a pattern or a
number. -/
def readField? (s : String) : Option FieldRule :=
  if s.isEmpty then none
  else
    match cut '=' s.toList with
    | name :: value :: _ =>
      if isPositive value || Pattern.isValid (String.ofList value) then
        some ⟨String.ofList name, true⟩
      else none
    | _ => some ⟨s, false⟩

/-- Where the reading of a rule stands. Places are counted in octets from the first character that
is not blank. -/
inductive Place where
  | start
  /-- Within a level or a source's name. -/
  | word
  /-- Within a span that began at a place. -/
  | span (first : Nat)
  /-- Within a field that began at a place. -/
  | field (first : Nat)
  | afterField
  | afterSpan
  /-- Within a level that began at a place. -/
  | level (first : Nat)

/-- The part of a text from one octet up to but not including another. -/
def piece (s : String) (first last : Nat) : Option String :=
  String.fromUTF8? (s.toUTF8.extract first last)

/-- Takes the character at a place. Blanks before a rule do not count as characters of it, but the
parts are cut out of the rule with its blanks. -/
def step? (s : String) (r : Rule) (i : Nat) (c : Char) : Place → Option (Rule × Place)
  | .start =>
    if c = '[' then some (r, .span (i + 1)) else if canBegin c then some (r, .word) else none
  | .word => do
    if c = '=' then some ({ r with source := some (← piece s 0 i) }, .level (i + 1))
    else if c = '[' then some ({ r with source := some (← piece s 0 i) }, .span (i + 1))
    else some (r, .word)
  | .span first => do
    if c = ']' then some ({ r with span := some (← piece s first i) }, .afterSpan)
    else if c = '\x7b' then
      let name ← piece s first i
      some ({ r with span := if name.isEmpty then none else some name }, .field (i + 1))
    else some (r, .span first)
  | .field first => do
    if c = '\x7d' then
      let field ← readField? (← piece s first i)
      some ({ r with field := some field }, .afterField)
    else some (r, .field first)
  | .afterField => if c = ']' then some (r, .afterSpan) else none
  | .afterSpan => if c = '=' then some (r, .level (i + 1)) else none
  | .level first => some (r, .level first)

/-- Takes characters one after the other. -/
def run? (s : String) : Rule → Nat → Place → List Char → Option (Rule × Place)
  | r, _, p, [] => some (r, p)
  | r, i, p, c :: cs => do
    let (r, p) ← step? s r i c p
    run? s r (i + c.utf8Size) p cs

/-- Reads a rule. A word that is no level is the beginning of a name. -/
def ofText? (s : String) : Option Rule := do
  match ← run? s (upTo everything) 0 .start (trimWhere isBlank s.toList) with
  | (r, .word) =>
    match readVerbosity? s with
    | some v => some { r with verbosity := v }
    | none => some { r with source := some s }
  | (r, .level first) =>
    let level ← piece s first s.utf8ByteSize
    if level.isEmpty then some r else some { r with verbosity := ← readVerbosity? level }
  | (r, .afterSpan) => some r
  | _ => none

/-! ### Entries -/

/-- Whether a rule fits an entry of a source with fields. -/
def fits (r : Rule) (source : String) (fields : List String) : Bool :=
  r.span.isNone && (r.source.all fun s => s.isPrefixOf source) &&
    (r.field.all fun f => !f.hasValue && fields.contains f.name)

/-- How particular a rule is about the source. -/
def reach (r : Rule) : Nat := (r.source.map fun s => s.utf8ByteSize + 1).getD 0

/-- The name of the field that a rule is about. -/
def fieldName (r : Rule) : String := (r.field.map (·.name)).getD ""

/-- Whether of two rules that fit an entry the second decides: the one with the longer beginning of
a name, then one that mentions a field, then the one whose field comes later in the alphabet, and of
two alike the later. -/
def yieldsTo (a b : Rule) : Bool :=
  if a.reach ≠ b.reach then a.reach < b.reach
  else if a.field.isSome ≠ b.field.isSome then b.field.isSome
  else !(b.fieldName < a.fieldName)

end Rule

/-! ### Filters -/

def readFilter? (s : String) : Option (List Rule) :=
  ((cut ',' s.toList).filter (!·.isEmpty)).mapM fun cs => Rule.ofText? (String.ofList cs)

/-- The filter of a variable's value; entries of note where none can be read. -/
def filterOf (value : Option String) : List Rule := (value.bind readFilter?).getD [.upTo 3]

/-- The rule that decides about an entry. -/
def decisive? (rules : List Rule) (source : String) (fields : List String) : Option Rule :=
  (rules.filter (·.fits source fields)).foldl
    (fun best r => if best.all (·.yieldsTo r) then some r else best) none

/-- Whether a filter shows an entry of a source with fields at a level. -/
def shows (rules : List Rule) (source : String) (fields : List String) (level : Level) : Bool :=
  (decisive? rules source fields).any fun r => level.verbosity ≤ r.verbosity

end TrafficFeed.Log
