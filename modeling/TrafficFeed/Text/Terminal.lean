import TrafficFeed.Text.Lossy

/-!
# Texts for a terminal

A text for a terminal may hold controls: single octets, and sequences that begin with an escape
character and set colours, move about or carry data. Without them what is left is what a reader
sees: a sequence is left out up to its end, even if it ends where nobody meant it to. In an output
that is written octet by octet a sequence goes on behind the blanks in the middle of it; in a text
that is taken as a whole it ends there.
-/

namespace TrafficFeed.Text.Terminal

/-- What a terminal is in the middle of. -/
inductive Phase where
  /-- A text to be shown. -/
  | ground
  /-- A sequence of which the escape character alone has come. -/
  | escape
  /-- A sequence that one octet ends after others in between. -/
  | escapeMore
  /-- A sequence for the screen. -/
  | control
  /-- A sequence for the device. -/
  | device
  /-- A text that is not to be shown, up to its end mark. -/
  | string
  /-- A command to the surroundings, up to a bell. -/
  | command
  deriving DecidableEq, Repr

/-- Whether an octet is a blank or begins a new line. -/
def isLayout (b : UInt8) : Bool := b = 0x09 || b = 0x0A || b = 0x0C || b = 0x0D || b = 0x20

/-- Whether an octet begins a character that is shown. -/
def isShown (b : UInt8) : Bool := isLayout b || (0x20 ≤ b && b < 0x7F) || 0xC0 ≤ b

/-- What an octet leads to, and whether it is shown. Blanks and line ends are shown even within a
sequence, and an escape character always begins a new one. -/
def Phase.next (p : Phase) (b : UInt8) : Phase × Bool :=
  let isFinal := 0x40 ≤ b && b < 0x7F
  if b = 0x18 || b = 0x1A then (.ground, false)
  else if b = 0x1B then (.escape, false)
  else
    match p with
    | .ground => (.ground, isShown b)
    | .escape =>
      if b < 0x20 then (.escape, isLayout b)
      else if b < 0x30 then (.escapeMore, false)
      else if b = 0x50 then (.device, false)
      else if b = 0x5B then (.control, false)
      else if b = 0x5D then (.command, false)
      else if b = 0x58 || b = 0x5E || b = 0x5F then (.string, false)
      else if b < 0x7F then (.ground, false)
      else (.escape, false)
    | .escapeMore =>
      if b < 0x20 then (.escapeMore, isLayout b)
      else if 0x30 ≤ b && b < 0x7F then (.ground, false)
      else (.escapeMore, false)
    | .control =>
      if b < 0x20 then (.control, isLayout b)
      else if isFinal then (.ground, false)
      else (.control, false)
    | .device => if isFinal then (.string, false) else (.device, false)
    | .string => if b = 0x9C then (.ground, false) else (.string, false)
    | .command => if b = 0x07 then (.ground, false) else (.command, false)

/-- The octets that are shown. While `showing` all is shown up to the next control, whatever the
phase; a character beyond ASCII ends every sequence, and so does all that is shown unless sequences
are `lasting`. -/
def visible (lasting : Bool) : (p : Phase) → (showing : Bool) → List UInt8 → List UInt8
  | _, _, [] => []
  | p, showing, b :: bs =>
    if showing && (isShown b || 0x80 ≤ b) then
      b :: visible lasting (if 0x80 ≤ b then .ground else p) true bs
    else
      match p.next b with
      | (p, true) => b :: visible lasting (if lasting then p else .ground) true bs
      | (p, false) => visible lasting p false bs

/-- What a reader sees of a text. -/
def plain (s : String) : String :=
  lossyText (visible false .ground false s.toUTF8.toList).toByteArray

/-- What a reader sees of a text that is written to an output. -/
def plainOutput (s : String) : String :=
  lossyText (visible true .ground false s.toUTF8.toList).toByteArray

/-! ### Styles -/

def styled (style text : String) : String := "\x1b[" ++ style ++ "m" ++ text ++ "\x1b[0m"

def bold (text : String) : String := styled "1" text

def yellow (text : String) : String := styled "33" text

end TrafficFeed.Text.Terminal
