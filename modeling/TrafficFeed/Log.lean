/-!
# Log entries

What the parts of the pipeline say while they run: a level, a fixed message and named fields in
their order. How entries are shown is left to whoever takes them.
-/

namespace TrafficFeed

namespace Log

/-- The part of the pipeline that speaks. -/
inductive Source where
  | worker
  | pipeline
  | correlation
  deriving DecidableEq, Repr

/-- How much an entry matters. -/
inductive Level where
  | error
  | warn
  | info
  | debug
  deriving DecidableEq, Repr

def Level.word : Level → String
  | .error => "ERROR"
  | .warn => "WARN"
  | .info => "INFO"
  | .debug => "DEBUG"

/-- One thing said. -/
structure Entry where
  source : Source
  level : Level
  message : String
  fields : List (String × String)
  deriving DecidableEq, Repr

/-- An entry in one line: level, message, and each field as `name=value`. -/
def Entry.line (e : Entry) : String :=
  " ".intercalate (e.level.word :: e.message :: e.fields.map fun f => f.1 ++ "=" ++ f.2)

end Log

end TrafficFeed
