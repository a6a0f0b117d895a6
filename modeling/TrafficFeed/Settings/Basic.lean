import TrafficFeed.Clock.Duration
import TrafficFeed.Error
import TrafficFeed.Queue
import TrafficFeed.Text.Property

/-!
# Settings

All that a pipeline is told before it starts, the defaults, and the values that it cannot run with.
-/

namespace TrafficFeed

open TrafficFeed.Clock TrafficFeed.Text

/-- Which events are made of a flow. -/
inductive Schema where
  /-- Details and summaries. -/
  | enriched
  /-- Plain events. -/
  | plain
  deriving DecidableEq, Repr

/-- The settings of a pipeline. Durations are in nanoseconds. -/
structure Settings where
  transport : TransportKind
  endpoint : String
  redisUrl : String
  redisList : String
  queueCapacity : Nat
  queuePolicy : Queue.Policy
  schema : Schema
  cacheTtl : Nat
  sweepInterval : Nat
  cacheLimit : Nat
  deriving DecidableEq, Repr

namespace Settings

def default : Settings :=
  { transport := .zmq
    endpoint := "tcp://*:5555"
    redisUrl := "redis://127.0.0.1:6379"
    redisList := "mitm_channel"
    queueCapacity := 1000
    queuePolicy := .block
    schema := .enriched
    cacheTtl := 300 * Duration.second
    sweepInterval := 30 * Duration.second
    cacheLimit := 10000 }

/-- What is wrong with settings. Of several faults the first counts. -/
def fault? (s : Settings) : Option String :=
  if s.queueCapacity = 0 then some "queue capacity must be greater than zero"
  else if s.cacheTtl = 0 then some "cache TTL must be greater than zero"
  else if s.sweepInterval = 0 then some "cache sweep interval must be greater than zero"
  else if s.transport = .zmq ∧ allBlank s.endpoint then
    some "publish endpoint must not be empty"
  else if s.transport = .redis ∧ allBlank s.redisList then
    some "redis list name must not be empty"
  else none

/-- Refuses settings that a pipeline cannot run with. -/
def validate (s : Settings) : Except Error Unit :=
  match s.fault? with
  | some details => .error (.config details)
  | none => .ok ()

theorem fault?_default : default.fault? = none := by decide +kernel

theorem validate_eq_ok_iff {s : Settings} : s.validate = .ok () ↔ s.fault? = none := by
  unfold validate
  cases s.fault? <;> simp

end Settings

end TrafficFeed
