import TrafficFeed.Clock.Instant

/-!
# The traffic log

A text that only grows: one line for each message, which begins with the moment of its receipt.
-/

namespace TrafficFeed

open TrafficFeed.Clock

/-- A message with the moment of its receipt, told by a clock that is `offset` seconds ahead of
universal time. -/
structure LogRecord where
  receivedAt : Instant
  raw : String
  offset : Int := 0
  deriving DecidableEq, Repr

/-- The line of a message: the moment to the microsecond, a colon, and the message as it came. -/
def LogRecord.line (r : LogRecord) : String :=
  (r.receivedAt.reading r.offset).logTime ++ ": " ++ r.raw ++ "\n"

/-- The log after the lines of further messages. -/
def appendRecords (log : String) (records : List LogRecord) : String :=
  log ++ String.join (records.map LogRecord.line)

@[simp] theorem appendRecords_nil (log : String) : appendRecords log [] = log := by
  simp [appendRecords, String.join]

@[simp] theorem appendRecords_append (log : String) (rs ss : List LogRecord) :
    appendRecords (appendRecords log rs) ss = appendRecords log (rs ++ ss) := by
  simp [appendRecords, String.append_assoc]

end TrafficFeed
