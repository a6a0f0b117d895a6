import Mathlib.Data.List.Basic
import TrafficFeed.Proofs.Transport.Reopening
import TrafficFeed.Transport.ListPublisher
import TrafficFeed.Transport.Publisher

/-!
# Recovery of the publishers

Neither publisher stays without a connection for good: each event that is delivered meanwhile is
lost, and leads to one more attempt. The publisher of sockets makes up to three in a row, at the
endpoint that it was first bound to, and never has two sockets; the list publisher makes one.
-/

namespace TrafficFeed.Transport

open TrafficFeed.Delivery

variable {ε : Type}

namespace Publisher

variable {s : Sockets ε}

/-! ### Attempts at an endpoint -/

/-- Attempts to open a socket that fail one after the other, and what is said of them. -/
inductive Fails (s : Sockets ε) (endpoint : String) : List String → ε → ε → Prop where
  | nil (e : ε) : Fails s endpoint [] e e
  | cons {details : String} {faults : List String} {e e₁ e₂ : ε}
      (hfail : openAt s endpoint e = (.error (.failed details), e₁))
      (hrest : Fails s endpoint faults e₁ e₂) : Fails s endpoint (details :: faults) e e₂

/-- What binding again comes to: a socket at the first success, no socket and the last fault if all
attempts fail, or a break. -/
lemma rebind_cases (left : Nat) (last : Outcome) (p : Publisher) (e : ε) :
    (∃ faults e₁ bound e₂, Fails s p.endpoint faults e e₁ ∧ faults.length < left ∧
      openAt s p.endpoint e₁ = (.ok bound, e₂) ∧
      rebind s left last p e = (.ok, { p with socket := some bound }, e₂)) ∨
    (∃ faults e₁, Fails s p.endpoint faults e e₁ ∧ faults.length = left ∧
      rebind s left last p e =
        ((faults.getLast?.map fun details => .failed (bindError p.endpoint details)).getD last,
          p, e₁)) ∨
    (∃ faults e₁ details e₂, Fails s p.endpoint faults e e₁ ∧ faults.length < left ∧
      openAt s p.endpoint e₁ = (.error (.broken details), e₂) ∧
      rebind s left last p e = (.broken, p, e₂)) := by
  induction left generalizing last e with
  | zero => exact .inr (.inl ⟨[], e, .nil e, rfl, rfl⟩)
  | succ left ih =>
    rcases hopen : openAt s p.endpoint e with ⟨⟨⟨details⟩ | ⟨details⟩⟩ | bound, e₁⟩
    · have hrebind : rebind s (left + 1) last p e =
          rebind s left (.failed (bindError p.endpoint details)) p e₁ := by
        rw [rebind, hopen]
      rw [hrebind]
      rcases ih (.failed (bindError p.endpoint details)) e₁ with
        ⟨faults, e₂, bound, e₃, hfails, hlength, hbound, hresult⟩ |
        ⟨faults, e₂, hfails, hlength, hresult⟩ |
        ⟨faults, e₂, fault, e₃, hfails, hlength, hbroken, hresult⟩
      · exact .inl ⟨details :: faults, e₂, bound, e₃, .cons hopen hfails, Nat.succ_lt_succ hlength,
          hbound, hresult⟩
      · refine .inr (.inl ⟨details :: faults, e₂, .cons hopen hfails, congrArg _ hlength, ?_⟩)
        rw [hresult, List.getLast?_cons]
        cases faults.getLast? <;> rfl
      · exact .inr (.inr ⟨details :: faults, e₂, fault, e₃, .cons hopen hfails,
          Nat.succ_lt_succ hlength, hbroken, hresult⟩)
    · refine .inr (.inr ⟨[], e, details, e₁, .nil e, Nat.succ_pos left, hopen, ?_⟩)
      rw [rebind, hopen]
    · refine .inl ⟨[], e, bound, e₁, .nil e, Nat.succ_pos left, hopen, ?_⟩
      rw [rebind, hopen]

/-- What making the connection anew comes to. The socket is closed first. -/
inductive Rebuilt (s : Sockets ε) (p : Publisher) (e : ε) : Outcome × Publisher × ε → Prop where
  | bound {faults : List String} {bound : Endpoint} {e₁ e₂ : ε}
      (hfails : Fails s p.endpoint faults (p.close s e).2 e₁) (hlength : faults.length < attempts)
      (hopen : openAt s p.endpoint e₁ = (.ok bound, e₂)) :
      Rebuilt s p e (.ok, ⟨p.endpoint, some bound⟩, e₂)
  | exhausted {faults : List String} {last : String} {e₁ : ε}
      (hfails : Fails s p.endpoint (faults ++ [last]) (p.close s e).2 e₁)
      (hlength : faults.length + 1 = attempts) :
      Rebuilt s p e (.failed (.bind p.endpoint last), ⟨p.endpoint, none⟩, e₁)
  | broken {faults : List String} {details : String} {e₁ e₂ : ε}
      (hfails : Fails s p.endpoint faults (p.close s e).2 e₁) (hlength : faults.length < attempts)
      (hopen : openAt s p.endpoint e₁ = (.error (.broken details), e₂)) :
      Rebuilt s p e (.broken, ⟨p.endpoint, none⟩, e₂)

lemma close_fst (p : Publisher) (e : ε) : (p.close s e).1 = ⟨p.endpoint, none⟩ := by
  obtain ⟨endpoint, _ | bound⟩ := p <;> rfl

lemma Rebuilt.of_rebuild (p : Publisher) (e : ε) : Rebuilt s p e (p.rebuild s e) := by
  have hrebuild : p.rebuild s e =
      rebind s attempts (.failed .closed) ⟨p.endpoint, none⟩ (p.close s e).2 := by
    rw [← close_fst (s := s) p e]
    rfl
  rw [hrebuild]
  rcases rebind_cases (s := s) attempts (.failed .closed) ⟨p.endpoint, none⟩ (p.close s e).2 with
    ⟨faults, e₁, bound, e₂, hfails, hlength, hopen, hresult⟩ |
    ⟨faults, e₁, hfails, hlength, hresult⟩ |
    ⟨faults, e₁, details, e₂, hfails, hlength, hopen, hresult⟩
  · rw [hresult]
    exact .bound hfails hlength hopen
  · rw [hresult]
    rcases List.eq_nil_or_concat' faults with rfl | ⟨before, last, rfl⟩
    · simp [attempts] at hlength
    · rw [List.getLast?_concat]
      exact .exhausted hfails (by simpa using hlength)
  · rw [hresult]
    exact .broken hfails hlength hopen

section

variable {p : Publisher} {e : ε} {result : Outcome × Publisher × ε}

lemma Rebuilt.ok_iff (h : Rebuilt s p e result) :
    result.1 = .ok ↔ result.2.1.socket.isSome = true := by
  cases h <;> simp

lemma Rebuilt.endpoint_eq (h : Rebuilt s p e result) : result.2.1.endpoint = p.endpoint := by
  cases h <;> rfl

end

/-! ### Sending over a socket -/

def isOpen (c : Publisher × ε) : Bool := c.1.socket.isSome

/-- Hands a message to the socket. -/
def sending (s : Sockets ε) (message : ByteArray) (c : Publisher × ε) :
    Except String Unit × Publisher × ε :=
  ((s.send message c.2).1, c.1, (s.send message c.2).2)

lemma publish_of_some {p : Publisher} {bound : Endpoint} (h : p.socket = some bound)
    (message : ByteArray) (e : ε) :
    p.publish s message e = (.ofSend (s.send message e).1, (s.send message e).2) := by
  rw [publish, h]
  rcases s.send message e with ⟨⟨details⟩ | ⟨⟨⟩⟩, e₁⟩ <;> rfl

lemma reopening (s : Sockets ε) : Reopening (transport s) isOpen (sending s) where
  publish_open := by
    rintro ⟨p, e⟩ hopen text
    obtain ⟨bound, hbound⟩ := Option.isSome_iff_exists.mp hopen
    simp only [transport, publish_of_some hbound, sending]
  publish_closed := by
    rintro ⟨⟨endpoint, _ | bound⟩, e⟩ hopen text
    · rfl
    · cases hopen
  rebuild_ok := by
    rintro ⟨p, e⟩
    exact (Rebuilt.of_rebuild p e).ok_iff

lemma endpoint_deliverAll (s : Sockets ε) (es : List Event) (state : State (Publisher × ε)) :
    (deliverAll (transport s) es state).2.connection.1.endpoint =
      state.connection.1.endpoint := by
  apply deliverAll_induction (reopening s)
    (P := fun c => c.1.endpoint = state.connection.1.endpoint)
  · intro message c hc
    exact hc
  · rintro ⟨p, e⟩ hc
    exact (Rebuilt.of_rebuild p e).endpoint_eq.trans hc
  · rfl

end Publisher

/-! ### Counting sockets -/

/-- The sockets that were opened and have not been closed, and the most that there were at any
time. -/
structure Watch where
  held : List Endpoint
  peak : Nat
  deriving DecidableEq, Repr

namespace Watch

def start : Watch := ⟨[], 0⟩

/-- Notes the end of an attempt to open a socket. -/
def opened : Except OpenError Endpoint → Watch → Watch
  | .ok bound, w => ⟨bound :: w.held, max w.peak (w.held.length + 1)⟩
  | .error _, w => w

def closed (bound : Endpoint) (w : Watch) : Watch := { w with held := w.held.erase bound }

end Watch

/-- The same sockets, watched. -/
def Sockets.watched (s : Sockets ε) : Sockets (ε × Watch) where
  bind endpoint e :=
    let (result, e₁) := s.bind endpoint e.1
    (result, e₁, e.2.opened result)
  send message e :=
    let (result, e₁) := s.send message e.1
    (result, e₁, e.2)
  close bound e := (s.close bound e.1, e.2.closed bound)

namespace Publisher

variable {s : Sockets ε}

lemma openAt_watched (endpoint : String) (e : ε × Watch) :
    openAt s.watched endpoint e =
      ((openAt s endpoint e.1).1, (openAt s endpoint e.1).2,
        e.2.opened (openAt s endpoint e.1).1) := by
  rw [openAt, openAt]
  cases Endpoint.parse endpoint <;> rfl

/-- Attempts that fail open nothing. -/
lemma Fails.watch_eq {endpoint : String} {faults : List String} {e e₁ : ε × Watch}
    (h : Fails s.watched endpoint faults e e₁) : e₁.2 = e.2 := by
  induction h with
  | nil e => rfl
  | cons hfail hrest ih =>
    rw [openAt_watched] at hfail
    obtain ⟨hresult, hafter⟩ := Prod.mk.inj hfail
    rw [ih, ← hafter, hresult]
    rfl

/-- The socket of a publisher is the only one that is open, and there were never two. -/
structure Alone (p : Publisher) (w : Watch) : Prop where
  held : w.held = p.socket.toList
  peak : w.peak ≤ 1

lemma bind_watched {asked : String} {e : ε} {p : Publisher} {e₁ : ε × Watch}
    (h : bind s.watched asked (e, .start) = (.ok p, e₁)) :
    ∃ bound, (openAt s (Endpoint.normalize asked) e).1 = .ok bound ∧
      p = ⟨bound.toText, some bound⟩ ∧ e₁.2 = ⟨[bound], 1⟩ := by
  rw [bind, openAt_watched] at h
  cases hopen : (openAt s (Endpoint.normalize asked) e).1 with
  | error fault =>
    rw [hopen] at h
    cases h
  | ok bound =>
    rw [hopen] at h
    obtain ⟨hp, rfl⟩ := Prod.mk.inj h
    obtain rfl := Except.ok.inj hp
    exact ⟨bound, rfl, rfl, rfl⟩

lemma Alone.close {p : Publisher} {e : ε × Watch} (h : Alone p e.2) :
    (p.close s.watched e).2.2 = ⟨[], e.2.peak⟩ := by
  obtain ⟨endpoint, socket⟩ := p
  obtain ⟨e, held, peak⟩ := e
  obtain rfl : held = socket.toList := h.held
  cases socket with
  | none => rfl
  | some bound => simp [Publisher.close, Sockets.watched, Watch.closed]

lemma Rebuilt.alone {p : Publisher} {e : ε × Watch} {result : Outcome × Publisher × ε × Watch}
    (hrebuilt : Rebuilt s.watched p e result) (h : Alone p e.2) :
    Alone result.2.1 result.2.2.2 := by
  have hpeak := h.peak
  have hclose := h.close (s := s)
  cases hrebuilt with
  | @bound faults bound e₁ e₂ hfails hlength hopen =>
    rw [openAt_watched, hfails.watch_eq, hclose] at hopen
    obtain ⟨hresult, rfl⟩ := Prod.mk.inj hopen
    rw [hresult]
    exact ⟨rfl, Nat.max_le.mpr ⟨hpeak, Nat.le_refl 1⟩⟩
  | @exhausted faults last e₁ hfails hlength =>
    have hwatch := hfails.watch_eq.trans hclose
    simp only [hwatch]
    exact ⟨rfl, hpeak⟩
  | @broken faults details e₁ e₂ hfails hlength hopen =>
    rw [openAt_watched, hfails.watch_eq, hclose] at hopen
    obtain ⟨hresult, rfl⟩ := Prod.mk.inj hopen
    rw [hresult]
    exact ⟨rfl, hpeak⟩

lemma alone_deliverAll (es : List Event) (state : State (Publisher × ε × Watch))
    (h : Alone state.connection.1 state.connection.2.2) :
    Alone (deliverAll (transport s.watched) es state).2.connection.1
      (deliverAll (transport s.watched) es state).2.connection.2.2 := by
  apply deliverAll_induction (reopening s.watched) (P := fun c => Alone c.1 c.2.2)
  · intro message c hc
    exact hc
  · rintro ⟨p, e⟩ hc
    exact (Rebuilt.of_rebuild p e).alone hc
  · exact h

/-- What is seen of a watched publisher by one who does not watch. -/
def unwatched (c : Publisher × ε × Watch) : Publisher × ε := (c.1, c.2.1)

lemma rebind_watched (left : Nat) (last : Outcome) (p : Publisher) (e : ε × Watch) :
    rebind s left last p e.1 =
      ((rebind s.watched left last p e).1, unwatched (rebind s.watched left last p e).2) := by
  induction left generalizing last e with
  | zero => rfl
  | succ left ih =>
    rw [rebind, rebind, openAt_watched]
    rcases openAt s p.endpoint e.1 with ⟨⟨⟨details⟩ | ⟨details⟩⟩ | bound, e₁⟩
    · exact ih (.failed (bindError p.endpoint details)) (e₁, e.2)
    · rfl
    · rfl

/-- Watching changes nothing. -/
lemma forgets_watched (s : Sockets ε) :
    Forgets unwatched (transport s.watched) (transport s) where
  publish := by
    rintro text ⟨p, e⟩
    cases hsocket : p.socket with
    | none => simp [transport, publish, unwatched, hsocket]
    | some bound => simp [transport, publish_of_some hsocket, unwatched, Sockets.watched]
  rebuild := by
    rintro ⟨p, e⟩
    have hclose : p.close s e.1 = unwatched (p.close s.watched e) := by
      obtain ⟨endpoint, _ | bound⟩ := p <;> rfl
    simp only [transport, unwatched, rebuild]
    rw [hclose]
    exact rebind_watched attempts (.failed .closed) _ _

end Publisher

/-! ### The list publisher -/

namespace ListPublisher

def isOpen (c : ListPublisher × ε) : Bool := c.1.connected

/-- Pushes a message onto the end of the list. -/
def sending (s : Servers ε) (message : ByteArray) (c : ListPublisher × ε) :
    Except String Unit × ListPublisher × ε :=
  ((s.push c.1.list message c.2).1, c.1, (s.push c.1.list message c.2).2)

/-- What making the connection anew comes to: it is asked for once. -/
inductive Rebuilt (s : Servers ε) (p : ListPublisher) (e : ε) :
    Outcome × ListPublisher × ε → Prop where
  | connected {e₁ : ε} (hconnect : s.connect p.target e = (.ok (), e₁)) :
      Rebuilt s p e (.ok, ⟨p.target, p.list, true⟩, e₁)
  | refused {details : String} {e₁ : ε} (hconnect : s.connect p.target e = (.error details, e₁)) :
      Rebuilt s p e (.failed (.connect p.describe details), ⟨p.target, p.list, false⟩, e₁)

lemma Rebuilt.of_rebuild (s : Servers ε) (p : ListPublisher) (e : ε) :
    Rebuilt s p e (p.rebuild s e) := by
  rw [rebuild, dial, close]
  rcases hconnect : s.connect p.target e with ⟨⟨details⟩ | ⟨⟨⟩⟩, e₁⟩
  · exact .refused hconnect
  · exact .connected hconnect

section

variable {s : Servers ε} {p : ListPublisher} {e : ε} {result : Outcome × ListPublisher × ε}

lemma Rebuilt.ok_iff (h : Rebuilt s p e result) :
    result.1 = .ok ↔ result.2.1.connected = true := by
  cases h <;> simp

lemma Rebuilt.target_eq (h : Rebuilt s p e result) :
    result.2.1.target = p.target ∧ result.2.1.list = p.list := by
  cases h <;> exact ⟨rfl, rfl⟩

end

lemma publish_of_connected {s : Servers ε} {p : ListPublisher} (h : p.connected = true)
    (message : ByteArray) (e : ε) :
    p.publish s message e = (.ofSend (s.push p.list message e).1, (s.push p.list message e).2) := by
  rw [publish, if_pos h]
  rcases s.push p.list message e with ⟨⟨details⟩ | ⟨⟨⟩⟩, e₁⟩ <;> rfl

lemma reopening (s : Servers ε) : Reopening (transport s) isOpen (sending s) where
  publish_open := by
    rintro ⟨p, e⟩ hopen text
    simp only [transport, publish_of_connected hopen, sending]
  publish_closed := by
    rintro ⟨p, e⟩ hclosed text
    simp only [isOpen] at hclosed
    simp [transport, publish, hclosed]
  rebuild_ok := by
    rintro ⟨p, e⟩
    exact (Rebuilt.of_rebuild s p e).ok_iff

lemma target_deliverAll (s : Servers ε) (es : List Event) (state : State (ListPublisher × ε)) :
    (deliverAll (transport s) es state).2.connection.1.target = state.connection.1.target ∧
      (deliverAll (transport s) es state).2.connection.1.list = state.connection.1.list := by
  apply deliverAll_induction (reopening s)
    (P := fun c => c.1.target = state.connection.1.target ∧ c.1.list = state.connection.1.list)
  · intro message c hc
    exact hc
  · rintro ⟨p, e⟩ ⟨htarget, hlist⟩
    obtain ⟨htarget', hlist'⟩ := (Rebuilt.of_rebuild s p e).target_eq
    exact ⟨htarget'.trans htarget, hlist'.trans hlist⟩
  · exact ⟨rfl, rfl⟩

end ListPublisher

/-! ### Both publishers -/

/-- Whatever becomes of sendings and of attempts to open a connection, no publisher is stuck without
one. An event that is delivered meanwhile is lost and leads to one rebuild: of up to three attempts
at the endpoint that was resolved at first, with no socket left beside, or of one attempt at the
server. Once that succeeds the next event is sent. -/
theorem publishers_recover :
    (∀ (ε : Type) (s : Sockets ε),
      Recovers (Publisher.transport s) Publisher.isOpen (Publisher.sending s) ∧
      ∀ p e, Publisher.Rebuilt s p e (p.rebuild s e)) ∧
    (∀ (ε : Type) (s : Sockets ε) (asked : String) (e : ε) (p : Publisher) (e₁ : ε × Watch),
      Publisher.bind s.watched asked (e, .start) = (.ok p, e₁) →
      ∀ (m : Metrics) (es : List Event),
        let reached := (deliverAll (Publisher.transport s.watched) es ⟨(p, e₁), m⟩).2.connection
        (∃ bound, (Publisher.openAt s (Endpoint.normalize asked) e).1 = .ok bound ∧
          reached.1.endpoint = bound.toText) ∧
        Publisher.Alone reached.1 reached.2.2 ∧
        (deliverAll (Publisher.transport s) es ⟨(p, e₁.1), m⟩).2.connection =
          (reached.1, reached.2.1)) ∧
    (∀ (ε : Type) (s : Servers ε),
      Recovers (ListPublisher.transport s) ListPublisher.isOpen (ListPublisher.sending s) ∧
      (∀ p e, ListPublisher.Rebuilt s p e (p.rebuild s e)) ∧
      ∀ (p : ListPublisher) (e : ε) (m : Metrics) (es : List Event),
        let reached := (deliverAll (ListPublisher.transport s) es ⟨(p, e), m⟩).2.connection
        reached.1.target = p.target ∧ reached.1.list = p.list) := by
  refine ⟨?sockets, ?course, ?servers⟩
  case sockets =>
    intro ε s
    exact ⟨.of_reopening (Publisher.reopening s), fun p e => .of_rebuild p e⟩
  case course =>
    intro ε s asked e p e₁ hbind m es reached
    obtain ⟨bound, hopen, rfl, hwatch⟩ := Publisher.bind_watched hbind
    refine ⟨⟨bound, hopen, ?endpoint⟩, ?alone, ?unwatched⟩
    case endpoint => exact Publisher.endpoint_deliverAll s.watched es _
    case alone =>
      apply Publisher.alone_deliverAll es
      rw [hwatch]
      exact ⟨rfl, Nat.le_refl 1⟩
    case unwatched =>
      have hforgets := deliverAll_forgets (Publisher.forgets_watched s) es
        ⟨(⟨bound.toText, some bound⟩, e₁), m⟩
      exact congrArg State.connection hforgets
  case servers =>
    intro ε s
    refine ⟨.of_reopening (ListPublisher.reopening s), fun p e => .of_rebuild s p e, ?_⟩
    intro p e m es
    exact ListPublisher.target_deliverAll s es ⟨(p, e), m⟩

/-- Sockets that follow a script, which tells for each attempt to open one and for each sending
whether it succeeds. -/
def Sockets.scripted : Sockets (List Bool) where
  bind endpoint e :=
    (if e.headD true then .ok endpoint else .error (.failed Machine.inUse), e.tail)
  send _ e := (if e.headD true then .ok () else .error Machine.unreachable, e.tail)
  close _ e := e

/-- A sending fails, and so do three attempts to bind; the next event is lost, but the one after it
goes out. -/
theorem publishers_recover_of_outage :
    let s := Sockets.scripted.watched
    let bound : Endpoint := .tcp (.address (.v4 ⟨127, 0, 0, 1⟩)) 5555
    let p : Publisher := ⟨"tcp://127.0.0.1:5555", some bound⟩
    let e := ([false, false, false, false, true, true], Watch.mk [bound] 1)
    let event : Event := .plainRequest ⟨"request", "http", "h", "GET", "/", ""⟩
    let reached n := (deliverAll (Publisher.transport s) (List.replicate n event)
      ⟨(p, e), .zero⟩).2.connection
    Publisher.bind s "tcp://127.0.0.1:5555" (true :: e.1, .start) = (.ok p, e) ∧
    (reached 1 = (⟨p.endpoint, none⟩, [true, true], ⟨[], 1⟩) ∧
      Publisher.Alone (reached 1).1 (reached 1).2.2) ∧
    (reached 2 = (p, [true], ⟨[bound], 1⟩) ∧ Publisher.Alone (reached 2).1 (reached 2).2.2) ∧
    reached 3 = (p, [], ⟨[bound], 1⟩) := by
  intro s bound p e event reached
  have hbind : Publisher.bind s "tcp://127.0.0.1:5555" (true :: e.1, .start) = (.ok p, e) := by
    decide
  have hreached := fun n => publishers_recover.2.1 (List Bool) Sockets.scripted
    "tcp://127.0.0.1:5555" (true :: e.1) p e hbind .zero (List.replicate n event)
  refine ⟨hbind, ⟨by decide, (hreached 1).2.1⟩, ⟨by decide, (hreached 2).2.1⟩, by decide⟩

end TrafficFeed.Transport
