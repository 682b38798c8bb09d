import FeatureFlags.Error
import FeatureFlags.Event

/-!
# The log

Every line that is logged, by what it says. A line has a level, a fixed message and
named fields.
-/

namespace FeatureFlags

inductive LogLevel
  | debug | info | warn
  deriving DecidableEq, Inhabited

def LogLevel.name : LogLevel → String
  | debug => "DEBUG"
  | info => "INFO"
  | warn => "WARN"

/-- A line of the log. -/
inductive LogEntry
  /-- The whole cache was replaced by gates of `count` distinct names. -/
  | cacheReplaced (count : Nat)
  | gateUpdated (name : String)
  | malformedFlags (error : TreeError)
  | noClusterGate
  | observerErrors (observer : String) (count : Nat)
  | configUnchanged
  | loopStarted (observers intervalMs : Nat)
  | loopStopped
  | observationFailed (error : ObserveError)
  /-- An event written to the log by a component. -/
  | event (component : String) (event : Event)
  deriving DecidableEq

namespace LogEntry

def level : LogEntry → LogLevel
  | cacheReplaced _ | gateUpdated _ | noClusterGate | configUnchanged => .debug
  | loopStarted .. | loopStopped => .info
  | malformedFlags _ | observerErrors .. | observationFailed _ => .warn
  | event _ e => match e.kind with
    | .normal => .info
    | .warning => .warn

def message : LogEntry → String
  | cacheReplaced _ => "Replacing feature gate cache"
  | gateUpdated _ => "Updated feature gate in cache"
  | malformedFlags _ => "Ignoring malformed feature flags in existing config"
  | noClusterGate => "No cluster featuregate found, assuming the Default feature set"
  | observerErrors .. => "Observer reported errors"
  | configUnchanged => "Observed config unchanged"
  | loopStarted .. => "Started config observer controller"
  | loopStopped => "Stopping config observer controller"
  | observationFailed _ => "Config observation failed"
  | event _ e => e.message

/-- A count as a field. -/
def count (n : Nat) : Json := .number (.int n)

def fields : LogEntry → List (String × Json)
  | cacheReplaced n => [("count", count n)]
  | gateUpdated name => [("name", .string name)]
  | malformedFlags error => [("error", .string error.message)]
  | noClusterGate | configUnchanged | loopStopped => []
  | observerErrors observer n => [("observer", .string observer), ("errors", count n)]
  | loopStarted observers intervalMs =>
    [("observers", count observers), ("interval_ms", count intervalMs)]
  | observationFailed error => [("error", .string error.message)]
  | event component e => [("component", .string component), ("reason", .string e.reason)]

end LogEntry

end FeatureFlags
