import TrafficFeed.Idn.Label

/-!
# Domain names

The form of a domain name in ASCII. Its characters are mapped, the whole is composed and cut at
the points, and each label is checked and written in ASCII. A character that no host may hold can
still become part of one that may, so it is only looked for in the composed text.
-/

namespace TrafficFeed.Idn

open TrafficFeed.Text

/-- The ASCII characters that no host may hold: controls, the blank, and those that bear a
meaning in a target. -/
def isForbidden (c : Char) : Bool :=
  c.toNat ≤ 0x20 || c.toNat == 0x7F || "%#/:<>?@[\\]^|".toList.contains c

/-- The form of a domain name in ASCII; `none` if the text is no domain name. -/
def toAscii? (name : List Char) : Option (List Char) := do
  let text := composed (← mapText name)
  if text.any isForbidden then none
  else
    let labels ← (cut '.' text).mapM readLabel
    if labels.all validLabel ∧ (labels.any runsRightToLeft → labels.all directionClear) then
      let parts ← labels.mapM writeLabel
      some (['.'].intercalate parts)
    else none

end TrafficFeed.Idn
