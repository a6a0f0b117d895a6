import TrafficFeed.Json.Basic
import TrafficFeed.Text.Hex
import TrafficFeed.Text.Numeral

/-!
# Writing JSON

The compact form: no blanks, members in their order. In a text the quotation mark, the backslash
and the characters below the blank are escaped, the common ones by a letter and the others by
four hexadecimal digits; all other characters stand as they are.
-/

namespace TrafficFeed.Json

open TrafficFeed.Text

/-- A character as it stands inside a quoted text. -/
def escape (c : Char) : List Char :=
  if c = '"' then ['\\', '"']
  else if c = '\\' then ['\\', '\\']
  else if c.toNat = 0x08 then ['\\', 'b']
  else if c.toNat = 0x0C then ['\\', 'f']
  else if c = '\n' then ['\\', 'n']
  else if c = '\r' then ['\\', 'r']
  else if c = '\t' then ['\\', 't']
  else if c.toNat < 0x20 then
    ['\\', 'u', '0', '0', digitChar (c.toNat / 16), digitChar (c.toNat % 16)]
  else [c]

/-- A text in quotation marks. -/
def quoteChars (cs : List Char) : List Char := '"' :: (cs.flatMap escape ++ ['"'])

def quote (s : String) : String := String.ofList (quoteChars s.toList)

/-- A number: an integer by its digits, any other as digits and a power of ten. -/
def Number.render : Number → String
  | .int n => toString n
  | .decimal negative digits exponent =>
    (if negative then "-" else "") ++ toString digits ++ "e" ++ toString exponent

mutual

/-- A value in compact form. -/
def render : Json → String
  | .null => "null"
  | .bool true => "true"
  | .bool false => "false"
  | .number n => n.render
  | .text s => quote s
  | .list items => "[" ++ ",".intercalate (renderItems items) ++ "]"
  | .object members => "\x7b" ++ ",".intercalate (renderMembers members) ++ "\x7d"

def renderItems : List Json → List String
  | [] => []
  | v :: vs => render v :: renderItems vs

/-- The members of an object, each as its quoted key, a colon and its value. -/
def renderMembers : List (String × Json) → List String
  | [] => []
  | (k, v) :: ms => (quote k ++ ":" ++ render v) :: renderMembers ms

end

end TrafficFeed.Json
