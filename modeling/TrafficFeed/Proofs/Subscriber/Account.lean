import TrafficFeed.Event.Describe
import TrafficFeed.Proofs.Subscriber.TrafficLog

/-!
# A subscriber's account

What a subscriber has counted and logged, after whatever messages. Every message is counted once as
received and at most once as something else; every message that is a text has its line in the log.
An event is counted by the scheme of its flow, which details and summaries give in upper case and
plain events as it is.
-/

namespace TrafficFeed

open TrafficFeed.Clock TrafficFeed.Http TrafficFeed.Text

/-! ### Letters -/

namespace Text

lemma toLower_toUpper (c : Char) : c.toUpper.toLower = c.toLower := by
  have hascii : ∀ n < 128, (Char.ofNat n).toUpper.toLower = (Char.ofNat n).toLower := by decide
  by_cases h : c.toNat < 128
  · simpa only [Char.ofNat_toNat] using hascii c.toNat h
  · have hupper : c.toUpper = c := by
      unfold Char.toUpper
      refine dif_neg fun hletter => h ?_
      have hlast : c.toNat ≤ 'z'.toNat := hletter.2
      exact Nat.lt_of_le_of_lt hlast (by decide)
    rw [hupper]

lemma lower_upper (s : String) : lower (upper s) = lower s := by
  rw [← String.toList_inj]
  simp only [toList_lower, toList_upper, List.map_map, Function.comp_def, toLower_toUpper]

lemma sameLetters_upper (s t : String) : sameLetters (upper s) t = sameLetters s t := by
  rw [sameLetters, lower_upper, sameLetters]

/-- A text is the same as one other at most. -/
lemma sameLetters_eq_false {s t u : String} (h : sameLetters s t = true) (hne : lower t ≠ lower u) :
    sameLetters s u = false := by
  rw [Bool.eq_false_iff, Ne, sameLetters_iff, sameLetters_iff.mp h]
  exact hne

end Text

/-! ### Messages -/

/-- A message that cannot be read: its octets are those of no text, or of one that is not JSON to
the reader, which sets limits to the depth and to the size of numbers and refuses an escaped
surrogate that stands alone. -/
inductive Malformed (message : ByteArray) : Prop where
  | notText (h : ∀ text : String, text.toUTF8 ≠ message)
  | notJson (text : String) (htext : text.toUTF8 = message) (hjson : Json.parse? text = none)

lemma malformed_iff {message : ByteArray} :
    Malformed message ↔ Json.parseBytes? message = none := by
  constructor
  · rintro (h | ⟨text, rfl, hjson⟩)
    · rw [Json.parseBytes?, fromUTF8?_eq_none h]
      rfl
    · rw [Json.parseBytes?, fromUTF8?_toUTF8]
      exact hjson
  · intro h
    cases htext : String.fromUTF8? message with
    | none =>
      refine .notText fun text heq => ?_
      rw [← heq, fromUTF8?_toUTF8] at htext
      cases htext
    | some text =>
      rw [Json.parseBytes?, htext] at h
      exact .notJson text (toUTF8_of_fromUTF8? htext) h

instance : DecidablePred Malformed := fun _ => decidable_of_iff _ malformed_iff.symm

/-! ### Counts -/

namespace Totals

/-- Whether a message was read and names a scheme. -/
def names (scheme : String) (v : Option Json) : Bool := v.any (sameLetters ·.scheme scheme)

lemma names_http_of_https {v : Option Json} (h : names "https" v = true) :
    names "http" v = false := by
  cases v with
  | none => rfl
  | some v => exact sameLetters_eq_false h (by simp [← String.toList_inj])

/-- A message counts as one thing at most beside being received. -/
lemma kinds_le (v : Option Json) :
    (if names "http" v then 1 else 0) + (if names "https" v then 1 else 0) +
      (if v.isNone then 1 else 0) ≤ 1 := by
  cases v with
  | none => simp [names]
  | some v =>
    by_cases hs : names "https" (some v) = true
    · simp [hs, names_http_of_https hs]
    · by_cases hp : names "http" (some v) = true <;> simp [hs, hp]

/-- What a message does to each count. The schemes are tried one after the other, but no message
names both. -/
lemma record_eq (t : Totals) (v : Option Json) :
    t.record v =
      { received := t.received + 1
        http := t.http + if names "http" v then 1 else 0
        https := t.https + if names "https" v then 1 else 0
        malformed := t.malformed + if v.isNone then 1 else 0 } := by
  cases v with
  | none => rfl
  | some v =>
    by_cases hs : sameLetters v.scheme "https" = true
    · have hnot : sameLetters v.scheme "http" = false := names_http_of_https (v := some v) hs
      simp [record, names, hs, hnot]
    · by_cases hp : sameLetters v.scheme "http" = true <;> simp [record, names, hs, hp]

/-- What was counted by scheme or as malformed was received. -/
def Sorted (t : Totals) : Prop := t.http + t.https + t.malformed ≤ t.received

lemma Sorted.zero : Sorted zero := Nat.le_refl 0

lemma Sorted.record {t : Totals} (h : t.Sorted) (v : Option Json) : (t.record v).Sorted := by
  have hkinds := kinds_le v
  unfold Sorted at h ⊢
  rw [record_eq]
  dsimp only
  omega

lemma Sorted.foldl {t : Totals} (h : t.Sorted) (vs : List (Option Json)) :
    (vs.foldl Totals.record t).Sorted := by
  induction vs generalizing t with
  | nil => exact h
  | cons v vs ih => exact ih (h.record v)

/-- A count that each message of a kind raises by one is raised by their number. -/
lemma count_foldl {f : Totals → Nat} {p : Option Json → Bool}
    (hf : ∀ t v, f (record t v) = f t + if p v then 1 else 0) (t : Totals)
    (vs : List (Option Json)) : f (vs.foldl record t) = f t + vs.countP p := by
  induction vs generalizing t with
  | nil => rfl
  | cons v vs ih =>
    rw [List.foldl_cons, ih, hf, List.countP_cons]
    omega

end Totals

namespace Session

lemma totals_take (s : Session) (receivedAt : Instant) (message : ByteArray) (offset : Int) :
    (s.take receivedAt message offset).totals = s.totals.record (Json.parseBytes? message) := by
  unfold take Receipt.ofMessage Json.parseBytes?
  cases String.fromUTF8? message <;> rfl

/-- The totals are those of the messages alone, whenever and wherever they were received. -/
lemma totals_run (s : Session) (messages : List (Instant × ByteArray)) (zone : Instant → Int) :
    (s.run messages zone).totals =
      (messages.map fun m => Json.parseBytes? m.2).foldl Totals.record s.totals := by
  induction messages generalizing s with
  | nil => rfl
  | cons m ms ih =>
    have hrest := ih (s.take m.1 m.2 (zone m.1))
    rw [totals_take] at hrest
    exact hrest

section FromNothing

variable (log : String) (messages : List (Instant × ByteArray)) (zone : Instant → Int)

lemma count_run {f : Totals → Nat} {p : Option Json → Bool} (hzero : f .zero = 0)
    (hf : ∀ t v, f (t.record v) = f t + if p v then 1 else 0) :
    f ((new log).run messages zone).totals =
      messages.countP fun m => p (Json.parseBytes? m.2) := by
  have hcount := Totals.count_foldl hf .zero (messages.map fun m => Json.parseBytes? m.2)
  rw [totals_run, new, hcount, hzero, List.countP_map, Nat.zero_add]
  rfl

lemma received_eq : ((new log).run messages zone).totals.received = messages.length := by
  have hcount := count_run log messages zone (f := Totals.received) (p := fun _ => true) rfl
    Totals.received_record
  rw [hcount, List.countP_true]

lemma malformed_eq :
    ((new log).run messages zone).totals.malformed =
      messages.countP fun m => (Json.parseBytes? m.2).isNone :=
  count_run log messages zone rfl fun t v => by rw [Totals.record_eq]

lemma http_eq :
    ((new log).run messages zone).totals.http =
      messages.countP fun m => Totals.names "http" (Json.parseBytes? m.2) :=
  count_run log messages zone rfl fun t v => by rw [Totals.record_eq]

lemma https_eq :
    ((new log).run messages zone).totals.https =
      messages.countP fun m => Totals.names "https" (Json.parseBytes? m.2) :=
  count_run log messages zone rfl fun t v => by rw [Totals.record_eq]

lemma sorted_run : ((new log).run messages zone).totals.Sorted := by
  rw [totals_run]
  exact Totals.Sorted.zero.foldl _

end FromNothing

end Session

/-! ### Events of flows -/

/-- The text that an event bears as its scheme, in whatever letters. -/
def Event.scheme : Event → String
  | requestDetail d => d.topProtocol
  | responseDetail d => d.topProtocol
  | summary s => s.connection.topProtocol
  | plainRequest r => r.scheme
  | plainResponse r => r.scheme

/-- The subscriber finds the scheme under either of two keys. -/
lemma Event.scheme_members (e : Event) : (Json.object e.members).scheme = e.scheme := by
  cases e with
  | summary s =>
    cases h : s.status <;>
      simp [Json.scheme, members, Connection.members, scheme, h, Json.lookup_cons]
  | _ => simp [Json.scheme, members, scheme, Json.textAt, Json.lookup_cons]

/-- What an event tells of a flow: the details and the summary of its request or of a response, or
the plain event of either. The summary of a response may take in any remembered request. -/
inductive Flow.Aspect where
  | requestDetail (now asked : Instant)
  | requestSummary (now asked : Instant)
  | responseSummary (now : Instant) (response : Response) (found : Option CapturedRequest)
  | responseDetail (now : Instant) (response : Response)
  | plainRequest
  | plainResponse (response : Response)

namespace Flow.Aspect

/-- The event that tells it. -/
def event (flow : Flow) : Aspect → Event
  | requestDetail now asked =>
    .requestDetail ((flow.request.captured asked).detail (flow.connection now))
  | requestSummary now asked =>
    .summary ((flow.request.captured asked).summary (flow.connection now))
  | responseSummary now response found =>
    .summary (response.summary (flow.connection now) found)
  | responseDetail now response => .responseDetail (response.detail (flow.connection now))
  | plainRequest => .plainRequest flow.request.plain
  | plainResponse response => .plainResponse (response.plain flow.request)

/-- Every event names the scheme of its flow. -/
lemma sameLetters_scheme (a : Aspect) (flow : Flow) (scheme : String) :
    sameLetters (Json.object (a.event flow).members).scheme scheme =
      sameLetters flow.request.scheme scheme := by
  rw [Event.scheme_members]
  cases a with
  | plainRequest => rfl
  | plainResponse response => rfl
  | _ => exact sameLetters_upper flow.request.scheme scheme

end Flow.Aspect

/-- Octets of no text, a text that is no JSON, and objects of two schemes. -/
example :
    let messages := [⟨#[0xff]⟩, "\x7b".toUTF8, "\x7b\"scheme\":\"http\"\x7d".toUTF8,
      "\x7b\"scheme\":\"wss\"\x7d".toUTF8]
    ((Session.new "").run (messages.map fun m => (Instant.epoch, m))).totals = ⟨4, 1, 0, 2⟩ := by
  decide +kernel

end TrafficFeed
