import TrafficFeed.Text.Cut
import TrafficFeed.Text.Hex
import TrafficFeed.Text.Numeral

/-!
# Search patterns

Which texts are search patterns: characters, classes of characters in brackets, groups in
parentheses, choices, and signs of repetition behind something to repeat. Only the form of a pattern
is looked at. Repetitions with counts in braces are not part of the language.
-/

namespace TrafficFeed.Text.Pattern

/-! ### Escapes -/

/-- What a part of a pattern stands for. -/
inductive Part where
  | character (c : Char)
  /-- A class of characters; `isOpen` says whether it reaches beyond ASCII in any case. -/
  | oneOf (isOpen : Bool)
  /-- A place in the text; `isEdge` says whether it is the edge of a word. -/
  | place (isEdge : Bool)
  deriving DecidableEq, Repr

/-- The hexadecimal digits of a fixed number of places that write a character. -/
def hexCharacter? (places : Nat) (cs : List Char) : Option (Part × List Char) := do
  if cs.length < places then none
  else
    let n ← ofDigits? hexDigit? 16 (cs.take places)
    if n.isValidChar then some (.character (Char.ofNat n), cs.drop places) else none

/-- The first letters of the general categories of characters. -/
def categories : List Char := ['c', 'l', 'm', 'n', 'p', 's', 'z']

/-- Reads what follows a backslash. Of letters and digits only those with a meaning may stand
there, and of all other characters only those of ASCII. -/
def escape? : List Char → Option (Part × List Char)
  | [] => none
  | c :: cs =>
    match c with
    | 'x' => hexCharacter? 2 cs
    | 'u' => hexCharacter? 4 cs
    | 'U' => hexCharacter? 8 cs
    | 'p' | 'P' =>
      match cs with
      | category :: rest =>
        if categories.contains category.toLower then some (.oneOf true, rest) else none
      | [] => none
    | 'd' | 's' | 'w' => some (.oneOf false, cs)
    | 'D' | 'S' | 'W' => some (.oneOf true, cs)
    | 'a' | 'f' | 't' | 'n' | 'r' | 'v' => some (.character c, cs)
    | 'A' | 'z' => some (.place false, cs)
    | 'b' | 'B' | '<' | '>' => some (.place true, cs)
    | _ => if c.isAlphanum || 0x80 ≤ c.toNat then none else some (.character c, cs)

/-! ### Classes of characters -/

/-- The named classes of characters. -/
def classNames : List String :=
  ["alnum", "alpha", "ascii", "blank", "cntrl", "digit", "graph", "lower", "print", "punct",
    "space", "upper", "word", "xdigit"]

/-- What follows a named class such as `:alpha:]`, if one stands at the front of a text. -/
def afterNamedClass? : List Char → Option (List Char)
  | ':' :: cs =>
    let cs := if cs.head? = some '^' then cs.tail else cs
    let name := String.ofList (cs.takeWhile Char.isAlphanum)
    match cs.dropWhile Char.isAlphanum with
    | ':' :: ']' :: rest => if classNames.contains name then some rest else none
    | _ => none
  | _ => none

/-- What follows the beginning of a class: a sign that turns it round, and hyphens and a closing
bracket that stand for themselves. -/
def afterOpening (cs : List Char) : List Char :=
  let cs := if cs.head? = some '^' then cs.tail else cs
  match cs with
  | '-' :: _ => cs.dropWhile (· = '-')
  | ']' :: rest => rest
  | _ => cs

/-- A member of a class; nothing but a character may begin or end a span. -/
def member? : List Char → Option (Option Char × List Char)
  | '\\' :: cs =>
    match escape? cs with
    | some (.character c, rest) => some (some c, rest)
    | some (.oneOf _, rest) => some (none, rest)
    | _ => none
  | c :: cs => some (some c, cs)
  | [] => none

/-- Reads a class from behind its opening bracket; `depth` classes are open around it, and `fuel` is
at least the number of characters. -/
def class? : (fuel : Nat) → (depth : Nat) → List Char → Option (List Char)
  | 0, _, _ => none
  | _, _, [] => none
  | fuel + 1, depth, '[' :: cs =>
    match afterNamedClass? cs with
    | some rest => class? fuel depth rest
    | none => class? fuel (depth + 1) (afterOpening cs)
  | fuel + 1, depth, ']' :: cs =>
    match depth with
    | 0 => some cs
    | depth + 1 => class? fuel depth cs
  | fuel + 1, depth, '&' :: '&' :: cs => class? fuel depth cs
  | fuel + 1, depth, '-' :: '-' :: cs => class? fuel depth cs
  | fuel + 1, depth, '~' :: '~' :: cs => class? fuel depth cs
  | fuel + 1, depth, cs =>
    match member? cs with
    | none => none
    | some (first, '-' :: rest) =>
      if rest.head? = some ']' || rest.head? = some '-' then class? fuel depth ('-' :: rest)
      else
        match first, member? rest with
        | some a, some (some b, rest) => if a ≤ b then class? fuel depth rest else none
        | _, _ => none
    | some (_, rest) => class? fuel depth rest

/-! ### Groups -/

/-- The letters of the settings that a group may change. -/
def settings : List Char := ['i', 'm', 's', 'U', 'u', 'R', 'x']

/-- Reads settings up to a colon or a closing parenthesis: each letter once, at most one hyphen,
and something behind it. Returns whether patterns go by characters from then on, and the text from
the end mark on. -/
def readSettings : (seen : List Char) → (byCharacters : Bool) → List Char →
    Option (Bool × List Char)
  | _, _, [] => none
  | seen, byCharacters, c :: cs =>
    if c = ':' || c = ')' then
      if seen.head? = some '-' then none else some (byCharacters, c :: cs)
    else if seen.contains c || !(c = '-' || settings.contains c) then none
    else
      readSettings (c :: seen) (if c = 'u' then !seen.contains '-' else byCharacters) cs

/-- What follows the name of a group, which ends in `>`. -/
def afterGroupName? (cs : List Char) : Option (String × List Char) :=
  let isLetter (c : Char) : Bool := c = '_' || c.isAlpha || 0x80 ≤ c.toNat
  let isInside (c : Char) : Bool :=
    isLetter c || c.isDigit || c = '.' || c = '[' || c = ']'
  match cs with
  | c :: _ =>
    if !isLetter c then none
    else
      match cs.dropWhile isInside with
      | '>' :: rest => some (String.ofList (cs.takeWhile isInside), rest)
      | _ => none
  | [] => none

/-! ### Patterns -/

/-- Where the reading of a pattern stands: whether each open group goes by characters, the innermost
first, the names of the groups, and whether there is something to repeat. -/
structure State where
  groups : List Bool
  byCharacters : Bool
  names : List String
  repeatable : Bool

def State.enter (s : State) (byCharacters : Bool) : State :=
  { s with groups := s.byCharacters :: s.groups, byCharacters, repeatable := false }

/-- Reads what follows an opening parenthesis. -/
def openGroup (s : State) : List Char → Option (State × List Char)
  | '?' :: '=' :: _ | '?' :: '!' :: _ | '?' :: '<' :: '=' :: _ | '?' :: '<' :: '!' :: _ => none
  | '?' :: 'P' :: '<' :: cs | '?' :: '<' :: cs => do
    let (name, rest) ← afterGroupName? cs
    if s.names.contains name then none
    else some ({ s with names := name :: s.names }.enter s.byCharacters, rest)
  | '?' :: ')' :: _ => none
  | '?' :: cs =>
    match readSettings [] s.byCharacters cs with
    | some (byCharacters, ':' :: rest) => some (s.enter byCharacters, rest)
    | some (byCharacters, _ :: rest) => some ({ s with byCharacters, repeatable := false }, rest)
    | _ => none
  | cs => some (s.enter s.byCharacters, cs)

/-- Whether a part may stand in a pattern: places at the edge of a word are not supported for words
of all alphabets, and a pattern that goes by octets must keep to ASCII. -/
def State.allows (s : State) : Part → Bool
  | .character c => s.byCharacters || c.toNat < 0x80
  | .oneOf isOpen => s.byCharacters || !isOpen
  | .place isEdge => !(s.byCharacters && isEdge)

/-- Reads a pattern to its end; `fuel` is more than the number of characters. -/
def isValidFrom : (fuel : Nat) → State → List Char → Bool
  | 0, _, _ => false
  | _, s, [] => s.groups.isEmpty
  | fuel + 1, s, c :: cs =>
    let goOn (p : Part) (rest : List Char) : Bool :=
      s.allows p && isValidFrom fuel { s with repeatable := true } rest
    match c with
    | '(' =>
      match openGroup s cs with
      | some (s, rest) => isValidFrom fuel s rest
      | none => false
    | ')' =>
      match s.groups with
      | outer :: groups =>
        isValidFrom fuel { s with groups, byCharacters := outer, repeatable := true } cs
      | [] => false
    | '|' => isValidFrom fuel { s with repeatable := false } cs
    | '*' | '+' | '?' =>
      s.repeatable && isValidFrom fuel s (if cs.head? = some '?' then cs.tail else cs)
    | '\x7b' => false
    | '[' =>
      match class? fuel 0 (afterOpening cs) with
      | some rest => goOn (.oneOf (cs.head? = some '^')) rest
      | none => false
    | '\\' =>
      match escape? cs with
      | some (p, rest) => goOn p rest
      | none => false
    | '.' => goOn (.oneOf true) cs
    | '^' | '$' => goOn (.place false) cs
    | _ => goOn (.character c) cs

/-- Whether a text is a search pattern. -/
def isValid (s : String) : Bool := isValidFrom (s.length + 1) ⟨[], true, [], false⟩ s.toList

end TrafficFeed.Text.Pattern
