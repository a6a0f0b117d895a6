import TrafficFeed.Url.Basic

/-!
# Errors

What can go wrong while events are made and delivered. An error is its cause; the wording is in
one function for each type.
-/

namespace TrafficFeed

inductive TransportKind where
  /-- A socket that publishes to all who subscribe. -/
  | zmq
  /-- The end of a list held by a Redis server. -/
  | redis
  deriving DecidableEq, Repr

def TransportKind.name : TransportKind → String
  | .zmq => "Zmq"
  | .redis => "Redis"

inductive TransportError where
  | bind (endpoint details : String)
  | connect (endpoint details : String)
  | send (details : String)
  | closed
  | unavailable (kind : TransportKind)
  deriving DecidableEq, Repr

namespace TransportError

def message : TransportError → String
  | .bind endpoint details => "Failed to bind " ++ endpoint ++ ": " ++ details
  | .connect endpoint details => "Failed to connect to " ++ endpoint ++ ": " ++ details
  | .send details => "Send failed: " ++ details
  | .closed => "Transport connection is closed"
  | .unavailable kind => "Transport " ++ kind.name ++ " is not available in this build"

/-- Whether the connection is to be made anew. -/
def isSendFailure : TransportError → Bool
  | .send _ | .closed => true
  | _ => false

end TransportError

inductive Error where
  | config (details : String)
  | transport (e : TransportError)
  | invalidUrl (url : String) (cause : Url.Error)
  | metrics (details : String)
  | logging (details : String)
  | io (details : String)
  deriving DecidableEq, Repr

/-- The wording of an error; one of a connection stands as it is. -/
def Error.message : Error → String
  | .config details => "Invalid configuration: " ++ details
  | .transport e => e.message
  | .invalidUrl url cause => "Invalid URL " ++ url ++ ": " ++ cause.message
  | .metrics details => "Metrics registry error: Error: " ++ details
  | .logging details => "Logging initialisation failed: " ++ details
  | .io details => "I/O error: " ++ details

end TrafficFeed
