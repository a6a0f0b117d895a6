import TrafficFeed.Json.Number
import TrafficFeed.Text.Hex

/-!
# The words of JSON

A text is cut into marks, quoted texts, numbers and the three names by a machine that takes one
character at a time. Running it on a text is a fold, so the words of a text that is put together
from parts are found part by part.
-/

namespace TrafficFeed.Json

open TrafficFeed.Text

/-- A word of the format. -/
inductive Token where
  | openList
  | closeList
  | openObject
  | closeObject
  | comma
  | colon
  | text (s : String)
  | atom (v : Json)
  deriving Repr

namespace Lexer

/-- How far an escape inside a text has been read. -/
inductive Escape where
  /-- No escape is open. -/
  | none
  /-- After a backslash. -/
  | opened
  /-- After `\u` and `count` hexadecimal digits of value `code`. -/
  | code (count code : Nat)
  /-- After the first half `high` of a character beyond the sixteen-bit ones. -/
  | half (high : Nat)
  /-- After that half and a backslash. -/
  | halfOpened (high : Nat)
  /-- Within the digits of the second half. -/
  | halfCode (high count code : Nat)
  deriving Repr

/-- What has been read of the word under way. A text and a word are held in reverse. -/
inductive Mode where
  | idle
  | text (escape : Escape) (read : List Char)
  | word (read : List Char)
  deriving Repr

/-- The word under way, and the words read before it in reverse. -/
structure State where
  mode : Mode
  done : List Token
  deriving Repr

def isBlank (c : Char) : Bool := c = ' ' || c = '\n' || c = '\r' || c = '\t'

/-- The characters of numbers and names. -/
def isWordChar (c : Char) : Bool :=
  ('0' ≤ c && c ≤ '9') || ('a' ≤ c && c ≤ 'z') || c = 'E' || c = '+' || c = '-' || c = '.'

/-- The mark that a character is by itself. -/
def mark? (c : Char) : Option Token :=
  if c = '[' then some .openList
  else if c = ']' then some .closeList
  else if c = '\x7b' then some .openObject
  else if c = '\x7d' then some .closeObject
  else if c = ',' then some .comma
  else if c = ':' then some .colon
  else none

/-- A name or a number. -/
def word? (cs : List Char) : Option Token :=
  if cs = "null".toList then some (.atom .null)
  else if cs = "true".toList then some (.atom (.bool true))
  else if cs = "false".toList then some (.atom (.bool false))
  else (Number.ofChars? cs).map fun n => .atom (.number n)

/-- The character that a letter after a backslash stands for. -/
def unescape? (c : Char) : Option Char :=
  if c = '"' ∨ c = '\\' ∨ c = '/' then some c
  else if c = 'b' then some (Char.ofNat 0x08)
  else if c = 'f' then some (Char.ofNat 0x0C)
  else if c = 'n' then some '\n'
  else if c = 'r' then some '\r'
  else if c = 't' then some '\t'
  else none

/-- One character of an open text. A character beyond the sixteen-bit ones is written as two
halves, which must follow one another; a half by itself is refused. -/
def stepText (done : List Token) (read : List Char) (c : Char) : Escape → Option State
  | .none =>
    if c = '"' then some ⟨.idle, .text (String.ofList read.reverse) :: done⟩
    else if c = '\\' then some ⟨.text .opened read, done⟩
    else if c.toNat < 0x20 then Option.none
    else some ⟨.text .none (c :: read), done⟩
  | .opened =>
    if c = 'u' then some ⟨.text (.code 0 0) read, done⟩
    else (unescape? c).map fun u => ⟨.text .none (u :: read), done⟩
  | .code count code => do
    let n := 16 * code + (← hexDigit? c)
    if count < 3 then some ⟨.text (.code (count + 1) n) read, done⟩
    else if 0xD800 ≤ n ∧ n < 0xDC00 then some ⟨.text (.half n) read, done⟩
    else if 0xDC00 ≤ n ∧ n < 0xE000 then Option.none
    else some ⟨.text .none (Char.ofNat n :: read), done⟩
  | .half high => if c = '\\' then some ⟨.text (.halfOpened high) read, done⟩ else Option.none
  | .halfOpened high =>
    if c = 'u' then some ⟨.text (.halfCode high 0 0) read, done⟩ else Option.none
  | .halfCode high count code => do
    let n := 16 * code + (← hexDigit? c)
    if count < 3 then some ⟨.text (.halfCode high (count + 1) n) read, done⟩
    else if 0xDC00 ≤ n ∧ n < 0xE000 then
      let u := 0x10000 + (high - 0xD800) * 0x400 + (n - 0xDC00)
      some ⟨.text .none (Char.ofNat u :: read), done⟩
    else Option.none

/-- One character between words. -/
def stepIdle (done : List Token) (c : Char) : Option State :=
  if isBlank c then some ⟨.idle, done⟩
  else if c = '"' then some ⟨.text .none [], done⟩
  else if isWordChar c then some ⟨.word [c], done⟩
  else (mark? c).map fun t => ⟨.idle, t :: done⟩

def step (s : State) (c : Char) : Option State :=
  match s.mode with
  | .idle => stepIdle s.done c
  | .text escape read => stepText s.done read c escape
  | .word read =>
    if isWordChar c then some ⟨.word (c :: read), s.done⟩
    else do stepIdle ((← word? read.reverse) :: s.done) c

def run (s : State) (cs : List Char) : Option State := cs.foldlM step s

/-- All words, the one that the end of the text completes included. -/
def finish (s : State) : Option (List Token) :=
  match s.mode with
  | .idle => some s.done.reverse
  | .text _ _ => none
  | .word read => do some ((← word? read.reverse) :: s.done).reverse

end Lexer

/-- The words of a text; `none` if it cannot be cut into words. -/
def Token.ofChars? (cs : List Char) : Option (List Token) := do
  Lexer.finish (← Lexer.run ⟨.idle, []⟩ cs)

end TrafficFeed.Json
