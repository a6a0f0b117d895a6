import TrafficFeed.Metrics.Basic
import TrafficFeed.Text.Rounding

/-!
# The exposition of metrics

The text in which metrics are read off: for each family, in the order of their names, a line of
help, a line with its kind, and a line with its value. Values are written at binary precision.
-/

namespace TrafficFeed

open TrafficFeed.Text

namespace Counter

/-- The name under which a counter is exposed. -/
def name : Counter → String
  | .enqueued => "flowtap_events_enqueued_total"
  | .dropped => "flowtap_events_dropped_total"
  | .published => "flowtap_events_published_total"
  | .failures => "flowtap_publish_failures_total"
  | .rebuilds => "flowtap_transport_rebuilds_total"
  | .evictions => "flowtap_correlation_evictions_total"
  | .misses => "flowtap_correlation_misses_total"

def help : Counter → String
  | .enqueued => "Events accepted onto the queue"
  | .dropped => "Events dropped before publish"
  | .published => "Events published to the transport"
  | .failures => "Failed publish calls"
  | .rebuilds => "Transport connection rebuilds"
  | .evictions => "Correlation entries evicted after their TTL"
  | .misses => "Responses without a cached request"

/-- The counters in the order of their names. -/
def byName : List Counter :=
  [.evictions, .misses, .dropped, .enqueued, .published, .failures, .rebuilds]

end Counter

/-- A metric with all that is told of it. -/
structure Metrics.Family where
  name : String
  help : String
  kind : String
  value : Int
  deriving Repr

/-- The three lines of a family. -/
def Metrics.Family.toText (f : Metrics.Family) : String :=
  "# HELP " ++ f.name ++ " " ++ f.help ++ "\n" ++
    "# TYPE " ++ f.name ++ " " ++ f.kind ++ "\n" ++
    f.name ++ " " ++ roundedIntText f.value ++ "\n"

namespace Metrics

/-- The family of the gauge. -/
def entriesFamily (m : Metrics) : Family :=
  ⟨"flowtap_correlation_entries", "Requests waiting for their response", "gauge", m.entries.toInt⟩

def family (m : Metrics) (c : Counter) : Family := ⟨c.name, c.help, "counter", (m.get c).toNat⟩

/-- All families in the order of their names. -/
def families (m : Metrics) : List Family := m.entriesFamily :: Counter.byName.map m.family

def toText (m : Metrics) : String := String.join (m.families.map Family.toText)

end Metrics

end TrafficFeed
