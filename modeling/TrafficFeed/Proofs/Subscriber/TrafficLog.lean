import TrafficFeed.Proofs.Event.Body
import TrafficFeed.Proofs.Event.Payload
import TrafficFeed.Proofs.Json.Clear
import TrafficFeed.Proofs.Text.Cut
import TrafficFeed.Proofs.Text.Numeral
import TrafficFeed.Subscriber.Session

/-!
# The record of events in the traffic log

A log of events is cut back into its lines at the line ends, and each line into its moment and its
payload at the first colon before a blank, whatever texts the events are made of: no payload ends a
line, and no moment has such a colon.
-/

namespace TrafficFeed

open TrafficFeed.Clock TrafficFeed.Text

/-! ### Reading a log back -/

/-- The moments and the messages of a log: of each part of it before a line end, what stands before
and after the mark. -/
def readLog? (log : String) : Option (List (String × String)) :=
  (cut '\n' log.toList).dropLast.mapM fun line =>
    (splitLine? line).map fun parts => (String.ofList parts.1, String.ofList parts.2)

/-- The events of a log, if each message is one. -/
def readEvents? (log : String) : Option (List Event) := do
  (← readLog? log).mapM fun entry => (Json.parse? entry.2).bind Event.ofJson?

/-! ### Cutting at line ends -/

section Cut

variable {sep : Char} {lines : List (List Char)}

/-- Lines that each have their end are cut into themselves, and nothing is after the last. -/
lemma cut_flatMap (h : ∀ line ∈ lines, sep ∉ line) :
    cut sep (lines.flatMap (· ++ [sep])) = lines ++ [[]] := by
  induction lines with
  | nil => rfl
  | cons line lines ih =>
    have hrest := ih fun other hmem => h other (by simp [hmem])
    simp [cut_append_cons (h line (by simp)), hrest]

lemma count_flatMap (h : ∀ line ∈ lines, sep ∉ line) :
    (lines.flatMap (· ++ [sep])).count sep = lines.length := by
  induction lines with
  | nil => rfl
  | cons line lines ih =>
    have hline : line.count sep = 0 := List.count_eq_zero.mpr (h line (by simp))
    have hrest := ih fun other hmem => h other (by simp [hmem])
    simp [hline, hrest]

end Cut

/-! ### Moments -/

@[simp] lemma clear_padded (width n : Nat) : Clear (padded width n).toList :=
  clear_of_isDigit fun _ => isDigit_padded

namespace Clock.Reading

lemma clear_yearText (year : Int) : Clear (yearText year).toList := by
  unfold yearText
  repeat' split
  all_goals simp

lemma notMem_yearText (year : Int) : ':' ∉ (yearText year).toList := by
  unfold yearText
  repeat' split
  all_goals simp [notMem_padded]

lemma clear_logTime (r : Reading) : Clear r.logTime.toList := by
  simp [logTime, dateText, timeText, clear_yearText]

/-- The first colon before a blank is the one after the moment: those within it come before the
digits of a minute and of a second. -/
lemma splitLine?_logTime (r : Reading) (raw : String) :
    splitLine? (r.logTime ++ ": " ++ raw).toList = some (r.logTime.toList, raw.toList) := by
  let hour := r.dateText.toList ++ ' ' :: (padded 2 r.hour).toList
  let minute := (padded 2 r.minute).toList
  let second := (padded 2 r.second).toList ++ '.' :: (padded 6 (r.fraction / 1000)).toList
  have hhour : ':' ∉ hour := by simp [hour, dateText, notMem_yearText, notMem_padded]
  have hminute : ':' ∉ minute ∧ ' ' ∉ minute := ⟨notMem_padded rfl, notMem_padded rfl⟩
  have hsecond : ':' ∉ second ∧ ' ' ∉ second := by simp [second, notMem_padded]
  have hmoment : r.logTime.toList = hour ++ ':' :: (minute ++ ':' :: second) := by
    simp [hour, minute, second, logTime, timeText]
  have hline : (r.logTime ++ ": " ++ raw).toList =
      hour ++ ':' :: (minute ++ ':' :: (second ++ ':' :: ' ' :: raw.toList)) := by
    simp [hmoment]
  have hmark : splitLine? (':' :: ' ' :: raw.toList) = some ([], raw.toList) := rfl
  rw [hline, splitLine?_colon hhour hminute.2, splitLine?_colon hminute.1 hsecond.2,
    splitLine?_append hsecond.1, hmark, hmoment]
  simp

/-- A leap second of a far year, told by a clock an hour ahead, before a message with a mark. -/
example :
    let t : Instant := ⟨253402300859, 1500000000, by decide, by decide, by decide, by decide⟩
    splitLine? ((t.reading 3600).logTime ++ ": " ++ "a: b").toList =
      some ("+10000-01-01 01:00:60.500000".toList, "a: b".toList) := by decide +kernel

end Clock.Reading

/-! ### Records of events -/

namespace LogRecord

/-- The record of the payload of an event. -/
def ofEvent (receivedAt : Instant) (offset : Int) (e : Event) : LogRecord :=
  ⟨receivedAt, e.payload, offset⟩

/-- The line of a record without its end. -/
def content (r : LogRecord) : String := (r.receivedAt.reading r.offset).logTime ++ ": " ++ r.raw

lemma line_eq (r : LogRecord) : r.line = r.content ++ "\n" := rfl

lemma clear_content_ofEvent (receivedAt : Instant) (offset : Int) (e : Event) :
    Clear (ofEvent receivedAt offset e).content.toList := by
  have hpayload : Clear e.payload.toList := Json.clear_render e.toJson
  simp [content, ofEvent, Reading.clear_logTime, hpayload]

end LogRecord

lemma toList_appendRecords (records : List LogRecord) :
    (appendRecords "" records).toList =
      (records.map fun r => r.content.toList).flatMap (· ++ ['\n']) := by
  simp [appendRecords, LogRecord.line_eq, List.flatMap_map]

lemma Event.parse?_payload (e : Event) :
    (Json.parse? e.payload).bind ofJson? = some e := by
  have hbytes := e.parseBytes?_payload
  rw [Json.parseBytes?, fromUTF8?_toUTF8] at hbytes
  have hparse : Json.parse? e.payload = some (.object e.members) := hbytes
  rw [hparse]
  exact e.ofJson?_members

/-- A log of events is a faithful record of them, whatever their texts and whenever and wherever
they were received: it has one line end for each, at the end of its line, and is read back as the
moments and the payloads in their order, and so as the events. -/
theorem log_faithful (entries : List (Instant × Int × Event)) :
    let records := entries.map fun r => LogRecord.ofEvent r.1 r.2.1 r.2.2
    let log := appendRecords "" records
    log.toList.count '\n' = entries.length ∧
      cut '\n' log.toList =
        (entries.map fun r =>
          ((r.1.reading r.2.1).logTime ++ ": " ++ r.2.2.payload).toList) ++ [[]] ∧
      readLog? log =
        some (entries.map fun r => ((r.1.reading r.2.1).logTime, r.2.2.payload)) ∧
      readEvents? log = some (entries.map fun r => r.2.2) := by
  intro records log
  let lines := records.map fun r => r.content.toList
  have hlog : log.toList = lines.flatMap (· ++ ['\n']) := toList_appendRecords records
  have hlines : ∀ line ∈ lines, '\n' ∉ line := by
    intro line hline
    simp only [lines, records, List.map_map, List.mem_map] at hline
    obtain ⟨r, -, rfl⟩ := hline
    exact (LogRecord.clear_content_ofEvent r.1 r.2.1 r.2.2).newline_notMem
  have hcut : cut '\n' log.toList =
      (entries.map fun r =>
        ((r.1.reading r.2.1).logTime ++ ": " ++ r.2.2.payload).toList) ++ [[]] := by
    rw [hlog, cut_flatMap hlines]
    simp only [lines, records, List.map_map]
    rfl
  have hread : readLog? log =
      some (entries.map fun r => ((r.1.reading r.2.1).logTime, r.2.2.payload)) := by
    rw [readLog?, hcut, List.dropLast_concat, List.mapM_map]
    simp only [Function.comp_def, Reading.splitLine?_logTime, Option.map_some,
      String.ofList_toList]
    exact List.mapM_pure
  refine ⟨?_, hcut, hread, ?_⟩
  · rw [hlog, count_flatMap hlines]
    simp [lines, records]
  · rw [readEvents?, hread]
    change (List.map _ _).mapM _ = _
    rw [List.mapM_map]
    simp only [Function.comp_def, Event.parse?_payload]
    exact List.mapM_pure

/-! ### The log of a session -/

/-- The record of a message, if it is a text. -/
def LogRecord.ofMessage? (receivedAt : Instant) (message : ByteArray) (offset : Int) :
    Option LogRecord :=
  (String.fromUTF8? message).map fun raw => ⟨receivedAt, raw, offset⟩

lemma Receipt.logged_ofMessage (t : Totals) (receivedAt : Instant) (message : ByteArray)
    (offset : Int) :
    (ofMessage t receivedAt message offset).logged =
      LogRecord.ofMessage? receivedAt message offset := by
  unfold ofMessage LogRecord.ofMessage?
  cases String.fromUTF8? message <;> rfl

/-- What a subscriber adds to its log: the messages that are texts, JSON or not. -/
lemma Session.log_run (s : Session) (messages : List (Instant × ByteArray))
    (zone : Instant → Int) :
    (s.run messages zone).log =
      appendRecords s.log
        (messages.filterMap fun m => LogRecord.ofMessage? m.1 m.2 (zone m.1)) := by
  induction messages generalizing s with
  | nil => simp [run]
  | cons m ms ih =>
    have htake : (s.take m.1 m.2 (zone m.1)).log =
        appendRecords s.log (LogRecord.ofMessage? m.1 m.2 (zone m.1)).toList := by
      rw [take, Receipt.logged_ofMessage]
    have hrest := ih (s.take m.1 m.2 (zone m.1))
    rw [htake, appendRecords_append] at hrest
    rw [run, List.foldl_cons, ← run, hrest, List.filterMap_cons]
    cases LogRecord.ofMessage? m.1 m.2 (zone m.1) <;> rfl

/-- What a subscriber adds to its log while it receives the payloads of events. -/
theorem Session.log_run_events (s : Session) (entries : List (Instant × Event))
    (zone : Instant → Int) :
    (s.run (entries.map fun r => (r.1, r.2.payload.toUTF8)) zone).log =
      appendRecords s.log (entries.map fun r => .ofEvent r.1 (zone r.1) r.2) := by
  have hrecord (r : Instant × Event) :
      LogRecord.ofMessage? r.1 r.2.payload.toUTF8 (zone r.1) =
        some (.ofEvent r.1 (zone r.1) r.2) := by
    rw [LogRecord.ofMessage?, fromUTF8?_toUTF8]
    rfl
  rw [log_run, List.filterMap_map]
  simp only [Function.comp_def, hrecord, List.filterMap_eq_map']

end TrafficFeed
