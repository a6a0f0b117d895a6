import TrafficFeed.Text.Ascii

/-!
# Header lists

Names and values in the order of capture, repeated names included. A name is looked up without
regard to the case of its ASCII letters, and the first entry under it counts.
-/

namespace TrafficFeed.Http

open TrafficFeed.Text

structure Headers where
  entries : List (String × String)
  deriving DecidableEq, Repr

namespace Headers

def empty : Headers := ⟨[]⟩

/-- Adds an entry at the end; earlier ones of its name stay. -/
def append (hs : Headers) (name value : String) : Headers := ⟨hs.entries ++ [(name, value)]⟩

/-- The first value under a name. -/
def get? (hs : Headers) (name : String) : Option String :=
  (hs.entries.find? fun e => sameLetters e.1 name).map Prod.snd

def contains (hs : Headers) (name : String) : Bool := (hs.get? name).isSome

def size (hs : Headers) : Nat := hs.entries.length

def isEmpty (hs : Headers) : Bool := hs.entries.isEmpty

def line (e : String × String) : String := e.1 ++ ": " ++ e.2

/-- One line for each entry, with line feeds between them. -/
def toBlock (hs : Headers) : String := "\n".intercalate (hs.entries.map line)

@[simp] theorem get?_empty (name : String) : empty.get? name = none := rfl

theorem get?_cons (n v : String) (es : List (String × String)) (name : String) :
    get? ⟨(n, v) :: es⟩ name = if sameLetters n name then some v else get? ⟨es⟩ name := by
  by_cases h : sameLetters n name <;> simp [get?, h]

@[simp] theorem size_append (hs : Headers) (name value : String) :
    (hs.append name value).size = hs.size + 1 := by
  simp [append, size]

end Headers

end TrafficFeed.Http
