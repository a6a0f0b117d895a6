import Std.Time.DateTime.Timestamp
import TrafficFeed.Subscriber.Program
import TrafficFeed.Subscriber.Session

/-!
# The subscriber

Prints and logs messages. They arrive on standard input, one a line, from whatever carries them
from the endpoint; the program ends when they do.
-/

namespace TrafficFeed.Subscriber

open TrafficFeed.Clock TrafficFeed.CommandLine

def present : IO Instant := do
  let t := (← Std.Time.Timestamp.now).val
  return (Instant.ofUnix? t.second.val t.nano.val.toNat).getD Instant.epoch

/-- The variables of the environment that the program reads. -/
def variableNames : List String := "RUST_LOG" :: program.options.map (·.envName)

/-- The environment, as far as the program reads it. -/
def environment : IO (String → Option Word) := do
  let values ← variableNames.mapM fun name => do return (name, (← IO.getEnv name).map String.toUTF8)
  return fun name => (values.lookup name).join

/-- Takes the lines of standard input until it ends. -/
partial def receiveAll (input : IO.FS.Stream) (log : IO.FS.Handle) (t : Totals) : IO Totals := do
  let line ← input.getLine
  if line.isEmpty then return t
  let message := (line.dropEndWhile (· == '\n')).toString.toUTF8
  let r := Receipt.ofMessage t (← present) message
  if let some record := r.logged then
    log.putStr record.line
    log.flush
  if let some text := r.printed then IO.println text
  receiveAll input log r.totals

end TrafficFeed.Subscriber

open TrafficFeed TrafficFeed.Subscriber in
/-- Prints and logs the messages on standard input, one a line. -/
def main (args : List String) : IO UInt32 := do
  let now ← present
  let moment := now.universal.dateText ++ "T" ++ now.universal.timeText ++ "Z"
  match start (fun _ => .ok ()) (args.map String.toUTF8) (← environment) moment with
  | .error e =>
    (← IO.getStdout).putStr e.output
    (← IO.getStderr).putStr e.errors
    return UInt32.ofNat e.code
  | .ok o =>
    let log ← IO.FS.Handle.mk (Text.lossyText o.logFile) .append
    let totals ← receiveAll (← IO.getStdin) log Totals.zero
    IO.print totals.farewell
    return 0
