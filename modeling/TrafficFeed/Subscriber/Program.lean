import TrafficFeed.CommandLine.Parser
import TrafficFeed.Json.Printer
import TrafficFeed.Json.Basic
import TrafficFeed.Subscriber.LogFilter
import TrafficFeed.Text.Quoted
import TrafficFeed.Transport.Machine
import TrafficFeed.Error

/-!
# The subscriber's command line

The program that prints and logs every event published. A run that ends before its first message
is told in full here: what is written to either output, and the exit code.
-/

namespace TrafficFeed.Subscriber

open TrafficFeed.CommandLine TrafficFeed.Text TrafficFeed.Text.Terminal TrafficFeed.Transport

/-- How entries of the log are written. -/
inductive LogFormat where
  | text
  | json
  deriving DecidableEq, Repr

def formatNames : List (String × LogFormat) := [("text", .text), ("json", .json)]

structure Options where
  endpoint : String
  logFile : Word
  format : LogFormat

/-- Settings of which nothing has been read yet. -/
def Options.blank : Options := ⟨"", .empty, .text⟩

def name : String := "flowtap-subscriber"

def version : String := "0.1.0"

/-- The name under which the program writes to the log. -/
def logSource : String := "flowtap_subscriber"

def program : Program Options where
  name := name
  options :=
    [.text "connect" "FLOWTAP_SUBSCRIBE_ENDPOINT" "tcp://127.0.0.1:5555"
        fun v o => { o with endpoint := v },
      .path "log-file" "FLOWTAP_SUBSCRIBE_LOG_FILE" "mitm_traffic.log"
        fun v o => { o with logFile := v },
      .choice "log-format" "FLOWTAP_LOG_FORMAT" "text" formatNames
        fun v o => { o with format := v }]
  hasVersion := true

/-- What the help says of the purpose of each option. -/
def explanations : List String :=
  ["Publisher endpoint to connect to", "File every raw message is appended to",
    "Diagnostic log format"]

def helpColumn : Nat := 33

/-- A text with blanks up to a width. -/
def padTo (width : Nat) (s : String) : String :=
  s ++ String.ofList (List.replicate (width - s.length) ' ')

/-- A text whose lines after the first begin at the column of explanations. -/
def indented (s : String) : String :=
  s.replace "\n" ("\n" ++ padTo helpColumn "")

/-- A line of the help on an option: blanks, the option in bold letters, its value, and what is told
of it. -/
def helpLine (front option value explanation : String) : String :=
  front ++ bold option ++ padTo (helpColumn - front.length - option.length) value ++
    explanation ++ "\n"

/-- The help on an option, with the value that the environment has for it. -/
def optionHelp (environment : String → Option Word) (o : Opt Options) (purpose : String) :
    String :=
  let value := ((environment o.envName).map lossyText).getD ""
  let default := match o.default? with
    | some word => " [default: " ++ word ++ "]"
    | none => ""
  let choices := if o.choices.isEmpty then ""
    else " [possible values: " ++ ", ".intercalate o.choices ++ "]"
  helpLine "      " ("--" ++ o.name) (" " ++ o.label.valueForm)
    (indented (purpose ++ " [env: " ++ o.envName ++ "=" ++ value ++ "]" ++ default ++ choices))

/-- The help, as a plain text. -/
def help (environment : String → Option Word) : String :=
  plainOutput <| "Print and log every event published by a flowtap forwarder\n\n" ++
    Refusal.usage name [] ++ "\n\nOptions:\n" ++
    String.join ((program.options.zip explanations).map fun (o, purpose) =>
      optionHelp environment o purpose) ++
    helpLine "  " "-h, --help" "" "Print help" ++
    helpLine "  " "-V, --version" "" "Print version"

/-! ### Telling of failures -/

/-- What is said if the log has been taken already. -/
def logTaken : String := "a global default trace dispatcher has already been set"

/-- Takes the log for the program. It can be taken once. -/
def takeLog (taken : Bool) : Except Error Unit :=
  if taken then .error (.logging logTaken) else .ok ()

/-- The entry for a failure. -/
def failureEntry (endpoint : String) (e : TransportError) : List (String × String) :=
  [("message", "Subscriber failed"), ("endpoint", endpoint), ("error", e.message)]

/-- An entry about a failure, at the moment `moment`. -/
def logLine (format : LogFormat) (moment endpoint : String) (e : TransportError) : String :=
  match format with
  | .text =>
    moment ++ " ERROR " ++ logSource ++ ": Subscriber failed endpoint=" ++ endpoint ++ " error=" ++
      e.message ++ "\n"
  | .json =>
    (Json.object
      [("timestamp", .text moment), ("level", .text "ERROR"),
        ("fields", .object ((failureEntry endpoint e).map fun f => (f.1, .text f.2))),
        ("target", .text logSource)]).render ++ "\n"

/-- What is written about a failure to connect when the program ends. -/
def lastWords (endpoint details : String) : String :=
  "Error: Transport(Connect \x7b endpoint: " ++ quoted endpoint ++ ", details: " ++
    quoted details ++ " \x7d)\n"

/-- How a run ends. -/
structure Exit where
  code : Nat
  output : String
  errors : String
  deriving DecidableEq, Repr

/-- The end of a run that a command line brings about by itself. -/
def exitOf (environment : String → Option Word) : Refusal → Exit
  | .help => ⟨0, help environment, ""⟩
  | .version => ⟨0, name ++ " " ++ version ++ "\n", ""⟩
  | r => ⟨2, "", plainOutput (r.message name)⟩

/-- The end of a run whose connection fails. -/
def exitOfFailure (o : Options) (environment : String → Option Word) (moment details : String) :
    Exit :=
  let rules := Log.filterOf ((environment "RUST_LOG").bind String.fromUTF8?)
  let failure := .connect o.endpoint details
  let fields := (failureEntry o.endpoint failure).map (·.1)
  let line := if Log.shows rules logSource fields .error
    then logLine o.format moment o.endpoint failure else ""
  ⟨1, line, lastWords o.endpoint details⟩

/-- Connects to an endpoint given as text; `reach` is what becomes of the attempt. -/
def connect (reach : Endpoint → Except OpenError Unit) (endpoint : String) :
    Except OpenError Unit :=
  match Endpoint.parse endpoint with
  | .error e => .error (.failed e.message)
  | .ok parsed => reach parsed

/-- The settings of a run, or the end that the command line brings about by itself. -/
def read (words : List Word) (environment : String → Option Word) : Except Exit Options :=
  (program.parse Options.blank words environment).mapError (exitOf environment)

/-- A run up to its first message; `moment` is the time of what it logs. -/
def start (reach : Endpoint → Except OpenError Unit) (words : List Word)
    (environment : String → Option Word) (moment : String) : Except Exit Options := do
  let o ← read words environment
  match connect reach o.endpoint with
  | .ok () => .ok o
  | .error (.failed details) => .error (exitOfFailure o environment moment details)
  | .error (.broken details) => .error ⟨101, "", details⟩

end TrafficFeed.Subscriber
