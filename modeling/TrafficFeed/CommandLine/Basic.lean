import TrafficFeed.CommandLine.Similarity
import TrafficFeed.Text.Lossy
import TrafficFeed.Text.Terminal

/-!
# Options and refusals

A program takes options by name, each with one value. An option that the command line does not
name takes its value from a variable of the environment, and without that it takes its default.
What is refused, and why, is told in a text for the user, in which words of the user's stand out on
a terminal; elsewhere it is a plain text.
-/

namespace TrafficFeed.CommandLine

open TrafficFeed.Text TrafficFeed.Text.Terminal

/-- A word of the command line or a value of the environment: octets, not necessarily a text. -/
abbrev Word := ByteArray

/-- Why a value is refused. -/
inductive ValueError where
  /-- There is none. -/
  | missing
  /-- It is not one of those that may be chosen. -/
  | notChoice (text : String)
  /-- It does not read as what the option takes. -/
  | invalid (text detail : String)
  /-- It is no text. -/
  | notText
  /-- Its reading broke off. -/
  | broken (detail : String)
  deriving DecidableEq, Repr

/-- An option of a program whose settings are of type `σ`. -/
structure Opt (σ : Type) where
  name : String
  /-- The variable of the environment that stands in for the option. -/
  envName : String
  /-- The values that may be chosen, if the option is a choice. -/
  choices : List String
  /-- The word for which the option stands where nothing is said of it. -/
  default? : Option String
  /-- Puts a value into the settings. -/
  put : Word → σ → Except ValueError σ

/-- What is known of an option when it is told about. -/
structure OptName where
  name : String
  choices : List String
  deriving DecidableEq, Repr

namespace OptName

/-- How the value of an option is written: `<LOG_FILE>`. -/
def valueForm (o : OptName) : String :=
  "<" ++ (o.name.map fun c => if c = '-' then '_' else c.toUpper) ++ ">"

/-- How an option is written with its value: `--log-file <LOG_FILE>`. -/
def form (o : OptName) : String := "--" ++ o.name ++ " " ++ o.valueForm

end OptName

namespace Opt

variable {σ η : Type}

def label (o : Opt σ) : OptName := ⟨o.name, o.choices⟩

/-- An option whose value is any text. -/
def text (name envName default : String) (set : String → σ → σ) : Opt σ where
  name := name
  envName := envName
  choices := []
  default? := some default
  put word s :=
    match String.fromUTF8? word with
    | some t => .ok (set t s)
    | none => .error .notText

/-- An option whose value is a text that must read as something. -/
def reading {α : Type} (name envName default : String) (read : String → Except ValueError α)
    (set : α → σ → σ) : Opt σ where
  name := name
  envName := envName
  choices := []
  default? := some default
  put word s :=
    match String.fromUTF8? word with
    | some t => (read t).map (set · s)
    | none => .error .notText

/-- An option whose value is one of several by name. -/
def choice {α : Type} (name envName default : String) (values : List (String × α))
    (set : α → σ → σ) : Opt σ where
  name := name
  envName := envName
  choices := values.map (·.1)
  default? := some default
  put word s :=
    let t := lossyText word
    match values.lookup t with
    | some a => .ok (set a s)
    | none => .error (.notChoice t)

/-- An option whose value names a file: any octets, but at least one. -/
def path (name envName default : String) (set : Word → σ → σ) : Opt σ where
  name := name
  envName := envName
  choices := []
  default? := some default
  put word s := if word.isEmpty then .error .missing else .ok (set word s)

/-- An option of either part as one of settings that have two parts. -/
def ofPart : Opt σ ⊕ Opt η → Opt (σ × η)
  | .inl o => { o with put := fun word s => (o.put word s.1).map (·, s.2) }
  | .inr o => { o with put := fun word s => (o.put word s.2).map (s.1, ·) }

end Opt

/-- A program: its options, and whether it tells its version. -/
structure Program (σ : Type) where
  name : String
  options : List (Opt σ)
  hasVersion : Bool

/-- The program that takes in the options of a part, whose settings are kept beside its own. -/
def Program.beside {σ η : Type} (p : Program η) (part : Program σ) : Program (σ × η) where
  name := p.name
  options := (p.options.map Sum.inr ++ part.options.map Sum.inl).map Opt.ofPart
  hasVersion := p.hasVersion

/-- Why a command line is not carried out. The user may also have asked for something else. -/
inductive Refusal where
  | help
  | version
  /-- A word that is no option of the program; `given` are the options to repeat in the usage. -/
  | unexpected (word : String) (similar : Option String) (given : List String)
  /-- A value for a flag that takes none. -/
  | unexpectedValue (value flag : String) (given : List String)
  | repeated (o : OptName)
  | value (o : OptName) (e : ValueError)
  deriving DecidableEq, Repr

namespace Refusal

/-- The line that shows how a program is called. -/
def usage (program : String) (given : List String) : String :=
  let rest := if given.isEmpty then ["[OPTIONS]"] else given
  "Usage: " ++ " ".intercalate (program :: rest)

def hint : String := "For more information, try '--help'.\n"

def choicesText (o : OptName) : String :=
  if o.choices.isEmpty then ""
  else "\n  [possible values: " ++ ", ".intercalate o.choices ++ "]"

/-- What is said of a value. -/
def valueText (program : String) (o : OptName) : ValueError → String
  | .missing => "a value is required for '" ++ o.form ++ "' but none was supplied" ++ choicesText o
  | .notChoice "" =>
    "a value is required for '" ++ o.form ++ "' but none was supplied" ++ choicesText o
  | .notChoice text =>
    let tip := match mostSimilar? text o.choices with
      | some name => "\n\n  tip: a similar value exists: '" ++ name ++ "'"
      | none => ""
    "invalid value '" ++ yellow text ++ "' for '" ++ o.form ++ "'" ++ choicesText o ++ tip
  | .invalid text detail =>
    "invalid value '" ++ yellow text ++ "' for '" ++ o.form ++ "': " ++ detail
  | .notText =>
    "invalid UTF-8 was detected in one or more arguments\n\n" ++ usage program []
  | .broken detail => detail

/-- What is said of a refusal of the program, without the last line. -/
def text (program : String) : Refusal → String
  | .help | .version => ""
  | .unexpected word similar given =>
    let tip := match similar with
      | some name => "  tip: a similar argument exists: '--" ++ name ++ "'\n\n"
      | none => ""
    "unexpected argument '" ++ yellow word ++ "' found\n\n" ++ tip ++ usage program given
  | .unexpectedValue word flag given =>
    "unexpected value '" ++ yellow word ++ "' for '" ++ flag ++
      "' found; no more were expected\n\n" ++ usage program given
  | .repeated o =>
    "the argument '" ++ o.form ++ "' cannot be used multiple times\n\n" ++ usage program []
  | .value o e => valueText program o e

/-- The whole message of a refusal of the program, for a terminal. -/
def message (program : String) (r : Refusal) : String :=
  "error: " ++ r.text program ++ "\n\n" ++ hint

end Refusal

end TrafficFeed.CommandLine
