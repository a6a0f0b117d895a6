import TrafficFeed.Pipeline.Basic
import TrafficFeed.Transport.Publisher

/-!
# Launching a pipeline

From the settings alone: they are checked, the connection that they name is opened, and the
pipeline is started over it. Lists of a server are a transport that can be asked for, but are not
part of every build; this one has none.
-/

namespace TrafficFeed.Pipeline

open TrafficFeed.Transport

variable {ε : Type}

/-- Opens the publisher that settings name. -/
def openPublisher (s : Sockets ε) (settings : Settings) (e : ε) :
    Except StartError (Publisher × ε) :=
  match settings.transport with
  | .redis => .error (.refused (.transport (.unavailable .redis)))
  | .zmq =>
    match Publisher.bind s settings.endpoint e with
    | (.ok p, e) => .ok (p, e)
    | (.error (.failed details), _) =>
      .error (.refused (.transport (.bind (Endpoint.normalize settings.endpoint) details)))
    | (.error (.broken details), _) => .error (.broken details)

def launch (s : Sockets ε) (settings : Settings) (e : ε) :
    Except StartError (List Log.Entry × Pipeline (Publisher × ε)) := do
  settings.validate.mapError .refused
  let connection ← openPublisher s settings e
  start (Publisher.transport s) settings connection

end TrafficFeed.Pipeline
