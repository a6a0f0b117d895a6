import TrafficFeed.CommandLine.Parser
import TrafficFeed.Json.Basic
import TrafficFeed.Settings.Basic

/-!
# Settings from words

Every setting is an option of the program that a pipeline is part of, beside the options that this
program has of its own, and each has a variable of the environment and a default. A pipeline that is
part of no such program takes the variables alone.
-/

namespace TrafficFeed.Settings

open TrafficFeed.CommandLine TrafficFeed.Clock TrafficFeed.Text

def readCount (text : String) : Except ValueError Nat :=
  (readNumeral UInt64.size text).mapError fun e => .invalid text e.message

def readDuration (text : String) : Except ValueError Nat :=
  (Duration.parse text).mapError fun e =>
    if e = .overflow then .broken e.message else .invalid text e.message

def transportNames : List (String × TransportKind) := [("zmq", .zmq), ("redis", .redis)]

def policyNames : List (String × Queue.Policy) :=
  [("block", .block), ("drop-newest", .dropNewest)]

def schemaNames : List (String × Schema) := [("enriched", .enriched), ("legacy", .plain)]

/-- The options, in the order in which the environment is read. -/
def options : List (Opt Settings) :=
  [.choice "transport" "FLOWTAP_TRANSPORT" "zmq" transportNames
      fun v s => { s with transport := v },
    .text "endpoint" "FLOWTAP_ENDPOINT" "tcp://*:5555" fun v s => { s with endpoint := v },
    .text "redis-url" "FLOWTAP_REDIS_URL" "redis://127.0.0.1:6379"
      fun v s => { s with redisUrl := v },
    .text "redis-list" "FLOWTAP_REDIS_LIST" "mitm_channel" fun v s => { s with redisList := v },
    .reading "queue-capacity" "FLOWTAP_QUEUE_CAPACITY" "1000" readCount
      fun v s => { s with queueCapacity := v },
    .choice "queue-full-policy" "FLOWTAP_QUEUE_FULL_POLICY" "block" policyNames
      fun v s => { s with queuePolicy := v },
    .choice "schema" "FLOWTAP_SCHEMA" "enriched" schemaNames fun v s => { s with schema := v },
    .reading "cache-ttl" "FLOWTAP_CACHE_TTL" "5m" readDuration fun v s => { s with cacheTtl := v },
    .reading "cache-sweep-interval" "FLOWTAP_CACHE_SWEEP_INTERVAL" "30s" readDuration
      fun v s => { s with sweepInterval := v },
    .reading "cache-max-entries" "FLOWTAP_CACHE_MAX_ENTRIES" "10000" readCount
      fun v s => { s with cacheLimit := v }]

/-- A program that takes the settings and nothing else. -/
def program (name : String) : Program Settings := ⟨name, options, false⟩

/-- The program of a host, which takes the settings beside options of its own. -/
def hosted {η : Type} (host : Program η) : Program (Settings × η) :=
  host.beside (program host.name)

/-- The name of a pipeline that has no command line of its own. -/
def embeddedName : String := "flowtap"

/-- Settings of which nothing has been read yet. -/
def blank : Settings :=
  { transport := .zmq
    endpoint := ""
    redisUrl := ""
    redisList := ""
    queueCapacity := 0
    queuePolicy := .block
    schema := .enriched
    cacheTtl := 0
    sweepInterval := 0
    cacheLimit := 0 }

/-- The settings of an environment, before they are checked. -/
def readEnvironment (environment : String → Option Word) : Except Refusal Settings :=
  (program embeddedName).parse blank [] environment

/-- The settings of an environment; those that a pipeline cannot run with are refused. -/
def ofEnvironment (environment : String → Option Word) : Except Error Settings := do
  let s ← (readEnvironment environment).mapError fun r =>
    .config (Terminal.plain (r.message embeddedName))
  s.validate
  return s

/-! ### Writing -/

def nameOf {α : Type} [DecidableEq α] (names : List (String × α)) (a : α) : String :=
  ((names.find? (·.2 = a)).map (·.1)).getD ""

/-- A duration as it may be written in the environment. -/
def durationWord (ns : Nat) : String :=
  toString (ns / Duration.second) ++ "s " ++ toString (ns % Duration.second) ++ "ns"

/-- The environment that settings are read back from. -/
def toEnvironment (s : Settings) : List (String × String) :=
  [("FLOWTAP_TRANSPORT", nameOf transportNames s.transport),
    ("FLOWTAP_ENDPOINT", s.endpoint),
    ("FLOWTAP_REDIS_URL", s.redisUrl),
    ("FLOWTAP_REDIS_LIST", s.redisList),
    ("FLOWTAP_QUEUE_CAPACITY", toString s.queueCapacity),
    ("FLOWTAP_QUEUE_FULL_POLICY", nameOf policyNames s.queuePolicy),
    ("FLOWTAP_SCHEMA", nameOf schemaNames s.schema),
    ("FLOWTAP_CACHE_TTL", durationWord s.cacheTtl),
    ("FLOWTAP_CACHE_SWEEP_INTERVAL", durationWord s.sweepInterval),
    ("FLOWTAP_CACHE_MAX_ENTRIES", toString s.cacheLimit)]

/-- The settings as the members of an object. Durations are texts, since they may be longer than
a number of 64 bits can tell. -/
def members (s : Settings) : List (String × Json) :=
  [("transport", .text (nameOf transportNames s.transport)), ("endpoint", .text s.endpoint),
    ("redis_url", .text s.redisUrl), ("redis_list", .text s.redisList),
    ("queue_capacity", .ofNat s.queueCapacity),
    ("queue_full_policy", .text (nameOf policyNames s.queuePolicy)),
    ("schema", .text (nameOf schemaNames s.schema)),
    ("cache_ttl_ns", .text (toString s.cacheTtl)),
    ("cache_sweep_interval_ns", .text (toString s.sweepInterval)),
    ("cache_max_entries", .ofNat s.cacheLimit)]

end TrafficFeed.Settings
