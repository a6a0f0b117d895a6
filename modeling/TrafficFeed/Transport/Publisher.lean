import TrafficFeed.Transport.Basic
import TrafficFeed.Transport.Machine

/-!
# The publisher

A socket that publishes to all who subscribe. It is bound once to the endpoint asked for; from then
on it keeps the endpoint that it got. To make the connection anew the socket is closed and the
endpoint is bound again, with up to three attempts. While no socket is open nothing can be
published.
-/

namespace TrafficFeed.Transport

/-- What a publisher needs of its surroundings, whose state is of type `ε`. -/
structure Sockets (ε : Type) where
  /-- Opens a socket at an endpoint and returns the endpoint it has. -/
  bind : Endpoint → ε → Except OpenError Endpoint × ε
  /-- Hands a message to the open socket. -/
  send : ByteArray → ε → Except String Unit × ε
  /-- Closes the socket at an endpoint. -/
  close : Endpoint → ε → ε

/-- A publisher: its endpoint, and the endpoint of the socket that is open, if one is. -/
structure Publisher where
  endpoint : String
  socket : Option Endpoint
  deriving DecidableEq, Repr

namespace Publisher

variable {ε : Type}

/-- How often a lost endpoint is bound again before it is given up. -/
def attempts : Nat := 3

/-- Opens a socket at an endpoint given as text. -/
def openAt (s : Sockets ε) (endpoint : String) (e : ε) : Except OpenError Endpoint × ε :=
  match Endpoint.parse endpoint with
  | .error error => (.error (.failed error.message), e)
  | .ok parsed => s.bind parsed e

def bindError (endpoint details : String) : TransportError := .bind endpoint details

/-- Binds a new publisher; a star as host stands for all interfaces. -/
def bind (s : Sockets ε) (endpoint : String) (e : ε) : Except OpenError Publisher × ε :=
  match openAt s (Endpoint.normalize endpoint) e with
  | (.ok bound, e) => (.ok ⟨bound.toText, some bound⟩, e)
  | (.error error, e) => (.error error, e)

def close (s : Sockets ε) (p : Publisher) (e : ε) : Publisher × ε :=
  match p.socket with
  | some bound => ({ p with socket := none }, s.close bound e)
  | none => (p, e)

def publish (s : Sockets ε) (message : ByteArray) (p : Publisher) (e : ε) : Outcome × ε :=
  match p.socket with
  | none => (.failed .closed, e)
  | some _ =>
    match s.send message e with
    | (.ok (), e) => (.ok, e)
    | (.error details, e) => (.failed (.send details), e)

/-- Binds the endpoint again, with at most so many attempts. The last fault counts. -/
def rebind (s : Sockets ε) : (left : Nat) → (last : Outcome) → Publisher → ε →
    Outcome × Publisher × ε
  | 0, last, p, e => (last, p, e)
  | left + 1, _, p, e =>
    match openAt s p.endpoint e with
    | (.ok bound, e) => (.ok, { p with socket := some bound }, e)
    | (.error (.failed details), e) =>
      rebind s left (.failed (bindError p.endpoint details)) p e
    | (.error (.broken _), e) => (.broken, p, e)

/-- Makes the connection anew. -/
def rebuild (s : Sockets ε) (p : Publisher) (e : ε) : Outcome × Publisher × ε :=
  let (p, e) := p.close s e
  rebind s attempts (.failed .closed) p e

def describe (p : Publisher) : String := "zmq-pub " ++ p.endpoint

/-- A publisher and its surroundings as a transport. -/
def transport (s : Sockets ε) : Transport (Publisher × ε) where
  publish text := fun (p, e) =>
    let (outcome, e) := p.publish s text.toUTF8 e
    (outcome, p, e)
  rebuild := fun (p, e) => p.rebuild s e
  close := fun (p, e) => p.close s e
  describe := fun (p, _) => p.describe

end Publisher

/-- The sockets of a machine. A message goes to all who subscribe, and there may be none. -/
def Machine.sockets : Sockets Machine where
  bind endpoint m := m.bind endpoint
  send _ m := (.ok (), m)
  close endpoint m := m.close endpoint

end TrafficFeed.Transport
