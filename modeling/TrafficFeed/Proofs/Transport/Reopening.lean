import TrafficFeed.Proofs.Transport.Traced

/-!
# Connections that close and open again

Three things are asked of a transport here: over an open connection a publication is one sending,
over a closed one it fails at once, and a new connection is open if and only if asking for it
succeeded. A worker with such a transport is not stuck with a closed connection: that costs it an
event each time, but with each it asks for a new connection.
-/

namespace TrafficFeed

variable {σ τ : Type}

namespace Transport

/-- The end of a publication that is one attempt to send. -/
def Outcome.ofSend : Except String Unit → Outcome
  | .ok () => .ok
  | .error details => .failed (.send details)

lemma Outcome.ofSend_ne_closed (sent : Except String Unit) : ofSend sent ≠ .failed .closed := by
  cases sent <;> simp [ofSend]

/-- Over this connection a publication is one sending. -/
def Sends (t : Transport σ) (send : ByteArray → σ → Except String Unit × σ) (c : σ) : Prop :=
  ∀ text, t.publish text c = (.ofSend (send text.toUTF8 c).1, (send text.toUTF8 c).2)

/-- A transport with a connection that is open or closed, and what sending a message does to it. -/
structure Reopening (t : Transport σ) (isOpen : σ → Bool)
    (send : ByteArray → σ → Except String Unit × σ) : Prop where
  publish_open : ∀ {c}, isOpen c = true → Sends t send c
  publish_closed : ∀ {c}, isOpen c = false → ∀ text, t.publish text c = (.failed .closed, c)
  rebuild_ok : ∀ c, (t.rebuild c).1 = .ok ↔ isOpen (t.rebuild c).2 = true

/-- Two transports of which one sees less of its connection than the other, and acts alike. -/
structure Forgets (see : σ → τ) (t : Transport σ) (t' : Transport τ) : Prop where
  publish : ∀ text c, t'.publish text (see c) = ((t.publish text c).1, see (t.publish text c).2)
  rebuild : ∀ c, t'.rebuild (see c) = ((t.rebuild c).1, see (t.rebuild c).2)

end Transport

namespace Delivery

open Transport

/-! ### One event -/

/-- What may become of an event, over an open connection and over a closed one. -/
inductive Delivered (t : Transport σ) (isOpen : σ → Bool)
    (send : ByteArray → σ → Except String Unit × σ) (e : Event) (s : State σ) :
    Delivery → State σ → Prop where
  | sent {c : σ} (hopen : isOpen s.connection = true)
      (hsend : send e.payload.toUTF8 s.connection = (.ok (), c)) :
      Delivered t isOpen send e s .published ⟨c, s.metrics.count .published⟩
  | failed {c : σ} {details : String} (hopen : isOpen s.connection = true)
      (hsend : send e.payload.toUTF8 s.connection = (.error details, c)) :
      Delivered t isOpen send e s .rebuilt
        ⟨(t.rebuild c).2, (s.metrics.count .failures).count .rebuilds⟩
  | lost (hclosed : isOpen s.connection = false) :
      Delivered t isOpen send e s .rebuilt
        ⟨(t.rebuild s.connection).2, (s.metrics.count .failures).count .rebuilds⟩

variable {t : Transport σ} {isOpen : σ → Bool} {send : ByteArray → σ → Except String Unit × σ}

lemma deliver_of_ok {e : Event} {s : State σ} {c : σ}
    (h : t.publish e.payload s.connection = (.ok, c)) :
    (deliver t e s).1 = .published ∧ (deliver t e s).2.2 = ⟨c, s.metrics.count .published⟩ := by
  simp [deliver, h]

lemma deliver_of_isSendFailure {e : Event} {s : State σ} {c : σ} {error : TransportError}
    (h : t.publish e.payload s.connection = (.failed error, c))
    (hsend : error.isSendFailure = true) :
    (deliver t e s).1 = .rebuilt ∧
      (deliver t e s).2.2 =
        ⟨(t.rebuild c).2, (s.metrics.count .failures).count .rebuilds⟩ := by
  simp [deliver, h, hsend, fail, rebuild]

lemma Delivered.of_deliver (h : Reopening t isOpen send) (e : Event) (s : State σ) :
    Delivered t isOpen send e s (deliver t e s).1 (deliver t e s).2.2 := by
  cases hopen : isOpen s.connection with
  | true =>
    have hpublish := h.publish_open hopen e.payload
    rcases hsend : send e.payload.toUTF8 s.connection with ⟨⟨details⟩ | ⟨⟨⟩⟩, c⟩
    · rw [hsend] at hpublish
      obtain ⟨hfate, hstate⟩ := deliver_of_isSendFailure hpublish rfl
      rw [hfate, hstate]
      exact .failed hopen hsend
    · rw [hsend] at hpublish
      obtain ⟨hfate, hstate⟩ := deliver_of_ok hpublish
      rw [hfate, hstate]
      exact .sent hopen hsend
  | false =>
    have hpublish := h.publish_closed hopen e.payload
    obtain ⟨hfate, hstate⟩ := deliver_of_isSendFailure hpublish rfl
    rw [hfate, hstate]
    exact .lost hopen

lemma connection_of_rebuilt {e : Event} {s : State σ} (h : (deliver t e s).1 = .rebuilt) :
    (deliver t e s).2.2.connection = (t.rebuild (t.publish e.payload s.connection).2).2 := by
  rw [deliver] at h ⊢
  cases houtcome : (t.publish e.payload s.connection).1 with
  | ok => simp [houtcome] at h
  | failed error =>
    cases hsend : error.isSendFailure with
    | true => simp [houtcome, hsend, fail, rebuild]
    | false => simp [houtcome, hsend] at h
  | broken => simp [houtcome, fail, rebuild]

/-- After a new connection was made the next event is sent over it. -/
lemma sends_of_rebuilt (h : Reopening t isOpen send) {e : Event} {s : State σ}
    (hfate : (deliver t e s).1 = .rebuilt)
    (hrebuild : (t.rebuild (t.publish e.payload s.connection).2).1 = .ok) :
    Sends t send (deliver t e s).2.2.connection := by
  apply h.publish_open
  rw [connection_of_rebuilt hfate]
  exact (h.rebuild_ok _).mp hrebuild

/-- What sending and asking for a new connection preserve, a delivery preserves. -/
lemma Delivered.preserves {e : Event} {s s' : State σ} {fate : Delivery}
    (h : Delivered t isOpen send e s fate s') {P : σ → Prop}
    (hsend : ∀ message c, P c → P (send message c).2) (hrebuild : ∀ c, P c → P (t.rebuild c).2)
    (hs : P s.connection) : P s'.connection := by
  cases h with
  | @sent c hopen hsent =>
    have hc := hsend e.payload.toUTF8 s.connection hs
    rw [hsent] at hc
    exact hc
  | @failed c details hopen hsent =>
    have hc := hsend e.payload.toUTF8 s.connection hs
    rw [hsent] at hc
    exact hrebuild c hc
  | lost hclosed => exact hrebuild s.connection hs

/-- What a worker makes of such a transport. An event that meets a closed connection is lost,
unsent, and leads to one attempt at a new connection; where that succeeds the next event is sent. -/
structure Recovers (t : Transport σ) (isOpen : σ → Bool)
    (send : ByteArray → σ → Except String Unit × σ) : Prop extends Reopening t isOpen send where
  closed_iff : ∀ text c, (t.publish text c).1 = .failed .closed ↔ isOpen c = false
  delivered : ∀ e s, Delivered t isOpen send e s (deliver t e s).1 (deliver t e s).2.2
  renewed : ∀ e s, (deliver t e s).1 = .rebuilt →
    (t.rebuild (t.publish e.payload s.connection).2).1 = .ok →
      Sends t send (deliver t e s).2.2.connection

lemma Recovers.of_reopening (h : Reopening t isOpen send) : Recovers t isOpen send where
  toReopening := h
  closed_iff text c := by
    cases hopen : isOpen c with
    | true =>
      rw [h.publish_open hopen text]
      simp [Outcome.ofSend_ne_closed]
    | false => simp [h.publish_closed hopen]
  delivered e s := .of_deliver h e s
  renewed e s hfate hrebuild := sends_of_rebuilt h hfate hrebuild

/-! ### Many events -/

lemma deliverAll_induction (h : Reopening t isOpen send) {P : σ → Prop}
    (hsend : ∀ message c, P c → P (send message c).2) (hrebuild : ∀ c, P c → P (t.rebuild c).2)
    (es : List Event) {s : State σ} (hs : P s.connection) :
    P (deliverAll t es s).2.connection := by
  induction es generalizing s with
  | nil => exact hs
  | cons e es ih =>
    exact ih ((Delivered.of_deliver h e s).preserves hsend hrebuild hs)

lemma deliver_forgets {see : σ → τ} {t : Transport σ} {t' : Transport τ} (h : Forgets see t t')
    (e : Event) (s : State σ) :
    (deliver t' e ⟨see s.connection, s.metrics⟩).2.2 =
      ⟨see (deliver t e s).2.2.connection, (deliver t e s).2.2.metrics⟩ := by
  simp only [deliver_state, h.publish, h.rebuild]
  split <;> rfl

/-- A worker does the same to a connection of which more is seen. -/
lemma deliverAll_forgets {see : σ → τ} {t : Transport σ} {t' : Transport τ} (h : Forgets see t t')
    (es : List Event) (s : State σ) :
    (deliverAll t' es ⟨see s.connection, s.metrics⟩).2 =
      ⟨see (deliverAll t es s).2.connection, (deliverAll t es s).2.metrics⟩ := by
  induction es generalizing s with
  | nil => rfl
  | cons e es ih =>
    simp only [deliverAll]
    rw [deliver_forgets h, ih]

end Delivery

end TrafficFeed
