import TrafficFeed.Subscriber.Totals
import TrafficFeed.Subscriber.TrafficLog

/-!
# A subscriber's session

From the first message to the last: each is counted, each that can be read is printed as a line,
and each that is a text is appended to the log.
-/

namespace TrafficFeed

open TrafficFeed.Clock

/-- What a message brings about: the counts after it, the line to print, and the record to log. -/
structure Receipt where
  totals : Totals
  printed : Option String
  logged : Option LogRecord
  deriving DecidableEq, Repr

/-- Takes a message after `t` was counted, by a clock that is `offset` seconds ahead of universal
time. -/
def Receipt.ofMessage (t : Totals) (receivedAt : Instant) (message : ByteArray)
    (offset : Int := 0) : Receipt :=
  match String.fromUTF8? message with
  | none => ⟨t.record none, none, none⟩
  | some raw =>
    let value := Json.parse? raw
    ⟨t.record value, value.map fun v => (Message.classify v).line,
      some { receivedAt, raw, offset }⟩

/-- A session: the counts, the lines printed with the latest first, and the log. -/
structure Session where
  totals : Totals
  printed : List String
  log : String
  deriving DecidableEq, Repr

namespace Session

/-- A session before its first message, over a log with earlier lines. -/
def new (log : String) : Session := ⟨Totals.zero, [], log⟩

/-- Takes a message. -/
def take (s : Session) (receivedAt : Instant) (message : ByteArray) (offset : Int := 0) :
    Session :=
  let r := Receipt.ofMessage s.totals receivedAt message offset
  { totals := r.totals
    printed := r.printed.toList ++ s.printed
    log := appendRecords s.log r.logged.toList }

/-- Takes messages in their order. `zone` is how far the clock is ahead at a moment. -/
def run (s : Session) (messages : List (Instant × ByteArray))
    (zone : Instant → Int := fun _ => 0) : Session :=
  messages.foldl (fun s m => s.take m.1 m.2 (zone m.1)) s

theorem run_append (s : Session) (ms ns : List (Instant × ByteArray)) (zone : Instant → Int) :
    s.run (ms ++ ns) zone = (s.run ms zone).run ns zone := by
  simp [run]

def output (s : Session) : String := String.join (s.printed.reverse.map (· ++ "\n"))

end Session

/-- What is printed at the end. -/
def Totals.farewell (t : Totals) : String :=
  "received " ++ toString t.received ++ " messages (http: " ++ toString t.http ++
    ", https: " ++ toString t.https ++ ", malformed: " ++ toString t.malformed ++ ")\n"

end TrafficFeed
