/-!
# Letters of the ASCII alphabet

Names and labels are compared and changed in case over the ASCII letters only; every other
character, accented letters included, stands for itself.
-/

namespace TrafficFeed.Text

def upper (s : String) : String := s.map Char.toUpper

def lower (s : String) : String := s.map Char.toLower

/-- Equality of texts up to the case of ASCII letters. -/
def sameLetters (s t : String) : Bool := lower s == lower t

@[simp] theorem toList_upper (s : String) : (upper s).toList = s.toList.map Char.toUpper :=
  String.toList_map

@[simp] theorem toList_lower (s : String) : (lower s).toList = s.toList.map Char.toLower :=
  String.toList_map

@[simp] theorem sameLetters_self (s : String) : sameLetters s s = true := by
  simp [sameLetters]

theorem sameLetters_iff {s t : String} : sameLetters s t = true ↔ lower s = lower t := by
  simp [sameLetters]

end TrafficFeed.Text
