import TrafficFeed.Text.Span
import TrafficFeed.Text.Table.Unseen

/-!
# Quoted texts

A text in quotation marks, as it is shown to someone who looks for a fault: quotation marks,
backslashes and the usual controls stand behind a backslash, and a character that would not be seen
by itself is shown by its number.
-/

namespace TrafficFeed.Text

/-- The characters that are not seen by themselves. -/
def unseenSpans : List Span := Span.ofTable Table.unseen

def isUnseen (c : Char) : Bool := memSpans unseenSpans c

/-- A character between quotation marks. -/
def quotedChar (c : Char) : List Char :=
  if c = '"' then ['\\', '"']
  else if c = '\\' then ['\\', '\\']
  else if c = '\n' then ['\\', 'n']
  else if c = '\r' then ['\\', 'r']
  else if c = '\t' then ['\\', 't']
  else if c.toNat = 0 then ['\\', '0']
  else if isUnseen c then ['\\', 'u', '\x7b'] ++ Nat.toDigits 16 c.toNat ++ ['\x7d']
  else [c]

def quoted (s : String) : String := "\"" ++ String.ofList (s.toList.flatMap quotedChar) ++ "\""

end TrafficFeed.Text
