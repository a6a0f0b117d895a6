import TrafficFeed.Text.Hex

/-!
# Percent encoding

A character that may not stand in a part of a target is written as its octets in UTF-8, each as
a percent sign and two hexadecimal digits. Which ASCII characters may stand depends on the part;
no other character ever does. Percent signs are left alone, so a text that is encoded already
stays as it is.
-/

namespace TrafficFeed.Url

open TrafficFeed.Text

/-! ### The characters to encode -/

/-- Control characters. -/
def controlSet (c : Char) : Bool := c.toNat < 0x20 || c.toNat == 0x7F

/-- Not in a fragment. -/
def fragmentSet (c : Char) : Bool :=
  controlSet c || c == ' ' || c == '"' || c == '<' || c == '>' || c == '`'

/-- Not in a query. -/
def querySet (c : Char) : Bool :=
  controlSet c || c == ' ' || c == '"' || c == '#' || c == '<' || c == '>'

/-- Not in the query of one of the schemes with rules of their own. -/
def specialQuerySet (c : Char) : Bool := querySet c || c == '\''

/-- Not in a path. -/
def pathSet (c : Char) : Bool :=
  fragmentSet c || c == '#' || c == '?' || c == '\x7b' || c == '\x7d'

/-- Not in a user name or a password. -/
def userSet (c : Char) : Bool :=
  pathSet c || c == '/' || c == ':' || c == ';' || c == '=' || c == '@' || c == '[' ||
    c == '\\' || c == ']' || c == '^' || c == '|'

/-! ### Encoding -/

/-- An octet as a percent sign and two digits. -/
def encodeOctet (b : UInt8) : List Char :=
  ['%', hexUpper (b.toNat / 16), hexUpper (b.toNat % 16)]

/-- A character, encoded if it is in the set or beyond ASCII. -/
def encodeChar (set : Char → Bool) (c : Char) : List Char :=
  if set c ∨ 0x80 ≤ c.toNat then (String.utf8EncodeChar c).flatMap encodeOctet else [c]

/-- A text with the characters of the set and those beyond ASCII encoded. -/
def encode (set : Char → Bool) (cs : List Char) : List Char := cs.flatMap (encodeChar set)

/-! ### Decoding -/

/-- The octets that a text stands for. A percent sign without two digits after it stands for
itself. -/
def decodeOctets : List Char → List UInt8
  | [] => []
  | c :: cs =>
    if c = '%' then
      match cs with
      | a :: b :: rest =>
        match hexDigit? a, hexDigit? b with
        | some h, some l => UInt8.ofNat (16 * h + l) :: decodeOctets rest
        | _, _ => 0x25 :: decodeOctets (a :: b :: rest)
      | rest => 0x25 :: decodeOctets rest
    else String.utf8EncodeChar c ++ decodeOctets cs
termination_by cs => cs.length

/-- The text that the octets of a text are the UTF-8 form of; `none` if they are not. -/
def decode? (cs : List Char) : Option String :=
  String.fromUTF8? (decodeOctets cs).toByteArray

end TrafficFeed.Url
