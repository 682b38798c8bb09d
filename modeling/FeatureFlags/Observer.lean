import FeatureFlags.Lister
import FeatureFlags.Registry
import FeatureFlags.Tree.Access

/-!
# Observers

An observer computes a fragment of configuration from what a lister answers and
from the configuration observed before. `FlagsObserver` derives the flags that a
server runs with from the cluster's feature gate and puts them at one path.

Its failures differ. A malformed list observed before, or a failed write, is
reported and the observation goes on. A failed lookup, or a feature set that cannot
be expanded, gives back the flags observed before, so that a lookup that fails for a
while never takes away a configuration that works.
-/

namespace FeatureFlags

/-- What is announced to the recorder. -/
inductive Notice
  /-- The flags at a path differ from those before. -/
  | flagsUpdated (path : Path) (flags : List String)
  /-- The flags could not be put at a path. -/
  | flagsNotWritten (path : Path) (cause : TreeError)
  /-- The configuration observed is another one. -/
  | configChanged (config : Tree)
  /-- An event in an observer's own words. -/
  | other (event : Event)
  deriving DecidableEq

/-- The event that a notice is recorded as. -/
def Notice.event : Notice → Event
  | flagsUpdated path flags =>
    ⟨.normal, "ObserveFeatureFlagsUpdated",
      "Updated " ++ path.dotted ++ " to " ++ ",".intercalate flags⟩
  | flagsNotWritten path cause =>
    ⟨.warning, "ObserveFeatureFlags",
      "Failed setting " ++ path.dotted ++ ": " ++ cause.message⟩
  | configChanged config =>
    ⟨.normal, "ObservedConfigChanged",
      "Writing updated observed config: " ++ (Json.object config).render⟩
  | other event => event

/-- What a piece of work does besides its result, each in order. -/
structure Trace where
  notices : List Notice := []
  log : List LogEntry := []
  /-- How many lookups were made. -/
  lookups : Nat := 0
  deriving DecidableEq

namespace Trace

instance : Inhabited Trace := ⟨{}⟩

instance : Append Trace where
  append a b := ⟨a.notices ++ b.notices, a.log ++ b.log, a.lookups + b.lookups⟩

end Trace

/-- A fragment of configuration, and every error met on the way to it. -/
structure Observation where
  config : Tree
  errors : List ObserveError
  deriving DecidableEq

def Observation.isOk (observation : Observation) : Bool := observation.errors.isEmpty

/-- Something that observes a part of the configuration. -/
structure Observer where
  /-- The name used in the log. -/
  name : String
  /-- The observation over what was observed before. -/
  observe : Lister → Tree → Observation × Trace

/-- The observer that always observes the same. -/
def Observer.fixed (name : String) (observation : Observation) : Observer :=
  ⟨name, fun _ _ => (observation, {})⟩

/-- The observer of feature flags. -/
structure FlagsObserver where
  /-- The features that the server understands; an empty list stands for all. -/
  knownFeatures : List String
  /-- Where the flags are put. -/
  path : Path
  registry : Registry := .builtin

namespace FlagsObserver

def allowsAll (observer : FlagsObserver) : Bool := observer.knownFeatures.isEmpty

/-- Whether a flag of this name may come out of the registry. -/
def allows (observer : FlagsObserver) (name : String) : Bool :=
  observer.allowsAll || observer.knownFeatures.contains name

/-- The flags of a gate. In the custom mode they are the names on the gate just as
    they stand there; in every other mode the names of the set that are allowed. -/
def flags (observer : FlagsObserver) (gate : Gate) : Except ObserveError (List String) :=
  if gate.featureSet.isCustom then
    match gate.custom with
    | some names => .ok names.flags
    | none => .error (.missingCustomSelection gate.featureSet)
  else
    match observer.registry.get? gate.featureSet with
    | some names => .ok (names.filter observer.allows).flags
    | none => .error (.unknownFeatureSet gate.featureSet.name)

/-- The flags that the cluster's gate asks for. A cluster without a gate is still being
    installed, and runs with the default set. -/
def derive (observer : FlagsObserver) (lister : Lister) : Except ObserveError (List String) :=
  match lister Gate.clusterName with
  | .error cause => .error (.lookup Gate.clusterName cause)
  | .ok gate => observer.flags (gate.getD (.cluster .default))

/-- The list observed before, or the error if it is malformed. -/
def current (observer : FlagsObserver) (existing : Tree) :
    Except TreeError (Option (List String)) :=
  existing.readList observer.path

/-- The flags at the path and nothing else. -/
def fragment (observer : FlagsObserver) (flags : List String) : Written :=
  (∅ : Tree).writeList observer.path flags

/-- The list observed before and nothing else, with the errors met on the way to it. -/
def previous (observer : FlagsObserver) (existing : Tree) : Observation :=
  match observer.current existing with
  | .ok none => ⟨∅, []⟩
  | .ok (some list) =>
    let written := observer.fragment list
    ⟨written.tree, written.error.toList.map .tree⟩
  | .error error => ⟨∅, [.tree error]⟩

/-- What an observation logs. -/
def log (observer : FlagsObserver) (lister : Lister) (existing : Tree) : List LogEntry :=
  (match observer.current existing with
    | .error error => [.malformedFlags error]
    | .ok _ => [])
  ++ match lister Gate.clusterName with
    | .ok none => [.noClusterGate]
    | _ => []

/-- The flags observed before, a missing or malformed list being empty. -/
def currentFlags (observer : FlagsObserver) (existing : Tree) : List String :=
  match observer.current existing with
  | .ok (some list) => list
  | _ => []

/-- One observation. It falls back to the flags observed before when none can be derived;
    otherwise it announces the flags derived if they differ from those. -/
def observe (observer : FlagsObserver) (lister : Lister) (existing : Tree) :
    Observation × Trace :=
  let previous := observer.previous existing
  let log := observer.log lister existing
  match observer.derive lister with
  | .error error =>
    (⟨previous.config, previous.errors ++ [error]⟩, { log, lookups := 1 })
  | .ok desired =>
    let written := observer.fragment desired
    let updated := if observer.currentFlags existing = desired then []
      else [.flagsUpdated observer.path desired]
    let failed := written.error.toList.map (.flagsNotWritten observer.path)
    (⟨written.tree, previous.errors ++ written.error.toList.map .tree⟩,
      { notices := updated ++ failed, log, lookups := 1 })

/-- The observer among others. -/
def toObserver (observer : FlagsObserver) : Observer := ⟨"feature-flags", observer.observe⟩

end FlagsObserver

end FeatureFlags
