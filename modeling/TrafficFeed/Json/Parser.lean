import TrafficFeed.Json.Lexer

/-!
# Reading JSON

The words of a text are taken one at a time by a machine whose stack holds the lists and objects
that are still open. At most 127 of them may be open at once.
-/

namespace TrafficFeed.Json

namespace Parser

/-- A list or an object that is still open, with its items or members in reverse. -/
inductive Frame where
  | list (items : List Json)
  | object (members : List (String × Json)) (key : String)
  deriving Repr

/-- What may come next. -/
inductive Expect where
  /-- A value. -/
  | value
  /-- The first item of a list, or its end. -/
  | itemOrEnd
  /-- The first key of an object, or its end. -/
  | keyOrEnd (members : List (String × Json))
  /-- A key, after a comma. -/
  | key (members : List (String × Json))
  /-- The colon after a key. -/
  | colon (members : List (String × Json)) (key : String)
  /-- A comma or the end of the innermost frame, after the value `v`. -/
  | after (v : Json)
  deriving Repr

/-- The machine's state: what may come next, and the open frames, innermost first. -/
structure State where
  expect : Expect
  frames : List Frame
  deriving Repr

/-- How many lists and objects may be open at once. -/
def maxDepth : Nat := 127

/-- The number of open lists and objects; an object whose key is awaited is held outside the
frames. -/
def State.depth (s : State) : Nat :=
  match s.expect with
  | .keyOrEnd _ | .key _ | .colon _ _ => s.frames.length + 1
  | _ => s.frames.length

/-- Takes a word where a value is awaited. -/
def stepValue (t : Token) (frames : List Frame) : Option State :=
  match t with
  | .atom v => some ⟨.after v, frames⟩
  | .text s => some ⟨.after (.text s), frames⟩
  | .openList =>
    if frames.length < maxDepth then some ⟨.itemOrEnd, .list [] :: frames⟩ else none
  | .openObject => if frames.length < maxDepth then some ⟨.keyOrEnd [], frames⟩ else none
  | _ => none

def step (s : State) (t : Token) : Option State :=
  match s.expect, t, s.frames with
  | .value, t, frames => stepValue t frames
  | .itemOrEnd, .closeList, .list items :: frames => some ⟨.after (.list items.reverse), frames⟩
  | .itemOrEnd, t, frames => stepValue t frames
  | .keyOrEnd members, .closeObject, frames => some ⟨.after (.object members.reverse), frames⟩
  | .keyOrEnd members, .text k, frames => some ⟨.colon members k, frames⟩
  | .key members, .text k, frames => some ⟨.colon members k, frames⟩
  | .colon members k, .colon, frames => some ⟨.value, .object members k :: frames⟩
  | .after v, .comma, .list items :: frames => some ⟨.value, .list (v :: items) :: frames⟩
  | .after v, .closeList, .list items :: frames =>
    some ⟨.after (.list (v :: items).reverse), frames⟩
  | .after v, .comma, .object members k :: frames => some ⟨.key ((k, v) :: members), frames⟩
  | .after v, .closeObject, .object members k :: frames =>
    some ⟨.after (.object ((k, v) :: members).reverse), frames⟩
  | _, _, _ => none

def start : State := ⟨.value, []⟩

def run (s : State) (ts : List Token) : Option State := ts.foldlM step s

/-- The value read, if nothing is open any more. -/
def finish : State → Option Json
  | ⟨.after v, []⟩ => some v
  | _ => none

end Parser

/-- The value that a list of words writes. -/
def ofTokens? (ts : List Token) : Option Json := do Parser.finish (← Parser.run Parser.start ts)

def ofChars? (cs : List Char) : Option Json := do ofTokens? (← Token.ofChars? cs)

def parse? (s : String) : Option Json := ofChars? s.toList

/-- Reads octets, which must be the UTF-8 form of a text. -/
def parseBytes? (bytes : ByteArray) : Option Json := do parse? (← String.fromUTF8? bytes)

end TrafficFeed.Json
