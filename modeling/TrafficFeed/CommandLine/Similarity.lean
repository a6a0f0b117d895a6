/-!
# Similar names

How alike two words are, from 0 to 1, and the name most like a word that was mistyped. Two
characters match if they are equal and not too far apart; the measure is the mean of the share of
either word that matches and the share of the matches that stand in the same order.
-/

namespace TrafficFeed.CommandLine

/-- The characters of a word, each with whether it has been matched. -/
abbrev Flagged := List (Char × Bool)

/-- Marks the first character not yet matched that equals `x` and whose place, counted from `i`,
lies from `low` on and below `high`. -/
def matchFirst (x : Char) (low high : Nat) : Nat → Flagged → Option Flagged
  | _, [] => none
  | i, (c, taken) :: rest =>
    if low ≤ i ∧ i < high ∧ c = x ∧ !taken then some ((c, true) :: rest)
    else (matchFirst x low high (i + 1) rest).map ((c, taken) :: ·)

/-- Matches the characters of a word, the first of which has the place `i`, with those of another.
Returns the characters that found a match, and the other word. -/
def matchAll (reach : Nat) : Nat → List Char → Flagged → List Char × Flagged
  | _, [], other => ([], other)
  | i, x :: xs, other =>
    match matchFirst x (i - reach) (i + reach + 1) 0 other with
    | some other =>
      let (found, other) := matchAll reach (i + 1) xs other
      (x :: found, other)
    | none => matchAll reach (i + 1) xs other

def similarity (a b : List Char) : Float :=
  if a.isEmpty && b.isEmpty then 1
  else
    let reach := max a.length b.length / 2 - 1
    let (left, other) := matchAll reach 0 a (b.map fun c => (c, false))
    let right := (other.filter (·.2)).map (·.1)
    let moved := ((left.zip right).filter fun p => p.1 ≠ p.2).length / 2
    if left.isEmpty then 0
    else
      let matched := left.length.toFloat
      (matched / a.length.toFloat + matched / b.length.toFloat +
        (left.length - moved).toFloat / matched) / 3

/-- How alike a name must be to be suggested. -/
def similarEnough : Float := 0.7

/-- The name most like a word, the last of several, if one is similar enough. -/
def mostSimilar? (word : String) (names : List String) : Option String :=
  let better (best : Option (Float × String)) (name : String) : Option (Float × String) :=
    let s := similarity word.toList name.toList
    match best with
    | some (t, _) => if s ≥ t then some (s, name) else best
    | none => if s > similarEnough then some (s, name) else none
  (names.foldl better none).map (·.2)

end TrafficFeed.CommandLine
