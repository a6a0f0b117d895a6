import TrafficFeed.CommandLine.Basic

/-!
# Reading a command line

The words are taken in their order. The value of an option may follow it after an equals sign or
as the next word. Such a value is looked at only when the next option comes, or at the end; a word
that is no option is refused before that. After the word `--` every word is refused. Then the
variables of the environment are taken for the options that were not named, or else the defaults.
-/

namespace TrafficFeed.CommandLine

open TrafficFeed.Text

namespace Parser

variable {σ : Type}

/-- An option that has been named and whose value is still to be looked at. -/
structure Pending (σ : Type) where
  option : Opt σ
  value : Option Word

/-- What has been taken so far: the settings, the names of the options in their order, the option
to be looked at, and whether `--` has come. -/
structure State (σ : Type) where
  settings : σ
  given : List String
  pending : Option (Pending σ)
  ended : Bool

def givenForms (p : Program σ) (given : List String) : List String :=
  given.map fun name =>
    match p.options.find? (·.name = name) with
    | some o => o.label.form
    | none => "--" ++ name

/-- The options as a group, any of which may be given. -/
def groupForm (p : Program σ) : String :=
  "<" ++ "|".intercalate (p.options.map fun o => o.label.form) ++ ">"

/-- Puts a value given for an option into the settings. An option counts as named even if its
value is refused, but no longer if it comes a second time. -/
def take (o : Opt σ) (value : Option Word) (s : State σ) : Except Refusal Unit × State σ :=
  match value with
  | none => (.error (.value o.label .missing), s)
  | some w =>
    if s.given.contains o.name then
      (.error (.repeated o.label), { s with given := s.given.filter (· ≠ o.name) })
    else
      let s := { s with given := s.given ++ [o.name] }
      match o.put w s.settings with
      | .ok settings => (.ok (), { s with settings })
      | .error e => (.error (.value o.label e), s)

/-- Looks at the value of the option named last. -/
def settle (s : State σ) : Except Refusal Unit × State σ :=
  match s.pending with
  | none => (.ok (), s)
  | some p => take p.option p.value { s with pending := none }

/-- Refuses a word that is no option, whatever is to be said of the option before it. -/
def refuse (word : String) : Except Refusal (State σ) := .error (.unexpected word none [])

/-- Refuses a word that has the form of a long option. -/
def refuseLong (p : Program σ) (name : String) (s : State σ) : Except Refusal (State σ) :=
  let flags := if p.hasVersion then ["help", "version"] else ["help"]
  let similar := mostSimilar? name (p.options.map (·.name) ++ flags)
  let given := (settle s).2.given
  let shown := match similar with
    | some n => if given.contains n then given else given ++ [n]
    | none => given
  .error (.unexpected ("--" ++ name) similar (givenForms p shown))

def flag? (p : Program σ) (name : String) : Option Refusal :=
  if name = "help" then some .help
  else if name = "version" ∧ p.hasVersion then some .version
  else none

/-- Goes on after what is pending has been looked at. -/
def settled (s : State σ) (next : State σ → Except Refusal (State σ)) :
    Except Refusal (State σ) :=
  match settle s with
  | (.ok (), s) => next s
  | (.error r, _) => .error r

/-- Takes a long option, with the value after its equals sign if there is one. -/
def long (p : Program σ) (name : String) (value : Option Word) (s : State σ) :
    Except Refusal (State σ) :=
  match p.options.find? (·.name = name), flag? p name with
  | some o, _ =>
    settled s fun s =>
      match value with
      | none => .ok { s with pending := some ⟨o, none⟩ }
      | some w =>
        match take o (some w) s with
        | (.ok (), s) => .ok s
        | (.error r, _) => .error r
  | none, some flag =>
    match value with
    | some w =>
      let flag := "--" ++ name
      let shown := if s.given.isEmpty then [flag] else [flag, groupForm p]
      .error (.unexpectedValue (lossyText w) flag shown)
    | none => settled s fun _ => .error flag
  | none, none => refuseLong p name s

/-- Takes a word of short options; the first of them decides. -/
def short (p : Program σ) (word : Word) (s : State σ) : Except Refusal (State σ) :=
  match (lossyText (word.extract 1 word.size)).toList with
  | 'h' :: _ => settled s fun _ => .error .help
  | 'V' :: _ => if p.hasVersion then settled s fun _ => .error .version else refuse "-V"
  | c :: _ => refuse (String.ofList ['-', c])
  | [] => refuse "-"

def hyphen : UInt8 := 45

def equals : UInt8 := 61

/-- A word as it looks: `--`, a long option with the value after its equals sign, a word of short
options, or a plain word. -/
inductive Shape where
  | terminator
  | long (name : String) (value : Option Word)
  | short
  | plain

def shape (w : Word) : Shape :=
  match w.data.toList with
  | [a, b] => if a = hyphen ∧ b = hyphen then .terminator else if a = hyphen then .short else .plain
  | a :: b :: rest =>
    if a = hyphen ∧ b = hyphen then
      let name := lossyText ⟨(rest.takeWhile (· ≠ equals)).toArray⟩
      match rest.dropWhile (· ≠ equals) with
      | [] => .long name none
      | _ :: value => .long name (some ⟨value.toArray⟩)
    else if a = hyphen then .short
    else .plain
  | _ => .plain

/-- Takes a word that is no option: the value awaited by the option before it, if there is one. -/
def plain (w : Word) (s : State σ) : Except Refusal (State σ) :=
  match s.pending, s.ended with
  | some ⟨o, none⟩, false => .ok { s with pending := some ⟨o, some w⟩ }
  | _, _ => refuse (lossyText w)

def step (p : Program σ) (s : State σ) (w : Word) : Except Refusal (State σ) :=
  if s.ended then refuse (lossyText w)
  else
    match shape w with
    | .terminator => .ok { s with ended := true }
    | .long name value => long p name value s
    | .short => short p w s
    | .plain => plain w s

/-- The word that stands in for an option that was not named: that of its variable in the
environment, or else its default. -/
def standIn? (environment : String → Option Word) (given : List String) (o : Opt σ) :
    Option Word :=
  if given.contains o.name then none
  else (environment o.envName).or (o.default?.map String.toUTF8)

/-- Puts the word that stands in for an option into the settings. -/
def fill (environment : String → Option Word) (given : List String) (settings : σ) (o : Opt σ) :
    Except Refusal σ :=
  match standIn? environment given o with
  | some w => (o.put w settings).mapError (.value o.label)
  | none => .ok settings

end Parser

open TrafficFeed.CommandLine.Parser in
/-- The settings that a command line and an environment make of those at the start, in which the
options without a default stay as they are if nothing is said of them. -/
def Program.parse {σ : Type} (p : Program σ) (start : σ) (words : List Word)
    (environment : String → Option Word) : Except Refusal σ := do
  let s ← words.foldlM (step p) ⟨start, [], none, false⟩
  let s ← settled s .ok
  p.options.foldlM (fill environment s.given) s.settings

end TrafficFeed.CommandLine
