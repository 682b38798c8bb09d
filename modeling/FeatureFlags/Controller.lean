import FeatureFlags.Observer
import FeatureFlags.Tree.Merge

/-!
# The controller

Runs its observers over the configuration observed so far, lays their fragments over
one another in the order of registration, and takes the result for the configuration
observed when it differs from what was there.
-/

namespace FeatureFlags

/-- The observers in the order of their registration, and the configuration observed. -/
structure Controller where
  observers : List Observer
  observed : Tree := ∅

/-- What a sync reports. -/
structure SyncReport where
  changed : Bool
  /-- The errors of all observers, in the order of registration. -/
  errors : List ObserveError
  deriving DecidableEq

/-- A degraded sync still publishes what the observers returned. -/
def SyncReport.isDegraded (report : SyncReport) : Bool := !report.errors.isEmpty

/-- One observer's part in a sync. -/
structure Turn where
  observer : String
  observation : Observation
  trace : Trace

namespace Turn

/-- What the controller logs about a turn. -/
def log (turn : Turn) : List LogEntry :=
  if turn.observation.isOk then []
  else [.observerErrors turn.observer turn.observation.errors.length]

/-- The turn with the controller's own lines after it. -/
def fullTrace (turn : Turn) : Trace := turn.trace ++ { log := turn.log }

end Turn

/-- What a sync does. -/
structure Sync where
  controller : Controller
  report : SyncReport
  trace : Trace

namespace Controller

/-- Every observer runs once, and all of them over the same configuration. -/
def turns (controller : Controller) (lister : Lister) : List Turn :=
  controller.observers.map fun observer =>
    let (observation, trace) := observer.observe lister controller.observed
    ⟨observer.name, observation, trace⟩

/-- The fragments of all turns, the later over the earlier. -/
def merged (turns : List Turn) : Tree :=
  turns.foldl (fun tree turn => tree.merge turn.observation.config) ∅

/-- One sync. -/
def sync (controller : Controller) (lister : Lister) : Sync :=
  let turns := controller.turns lister
  let tree := merged turns
  let errors := turns.flatMap (·.observation.errors)
  let observing := turns.foldl (fun trace turn => trace ++ turn.fullTrace) {}
  if (controller.observed.same tree : Bool) then
    ⟨controller, ⟨false, errors⟩, observing ++ { log := [.configUnchanged] }⟩
  else
    ⟨{ controller with observed := tree }, ⟨true, errors⟩,
      observing ++ { notices := [.configChanged tree] }⟩

/-- The controller for people to read. -/
def outline (controller : Controller) : String :=
  "ConfigObserverController \x7b observers: " ++ toString controller.observers.length
    ++ ", observed: " ++ controller.observed.outline ++ " \x7d"

end Controller

end FeatureFlags
