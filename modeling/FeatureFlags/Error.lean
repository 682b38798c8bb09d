import FeatureFlags.FeatureSet
import FeatureFlags.Tree.Error

/-!
# Errors of observation

What can go wrong when a feature gate is looked up and when flags are derived from
it, with the wording of each.
-/

namespace FeatureFlags

/-- Why a lookup gave no answer. -/
inductive ListerError
  | notSynced
  | unavailable (reason : String)
  deriving DecidableEq, Inhabited

def ListerError.message : ListerError → String
  | notSynced => "feature gate cache has not synced yet"
  | unavailable reason => "feature gate source unavailable: " ++ reason

/-- What an observer reports besides its fragment. -/
inductive ObserveError
  /-- Reading or writing at the managed path failed. -/
  | tree (error : TreeError)
  /-- Looking up a gate failed for another reason than its absence. -/
  | lookup (name : String) (cause : ListerError)
  /-- The custom set is selected and the gate lists no names. -/
  | missingCustomSelection (set : FeatureSet)
  /-- The set selected has no entry in the registry. -/
  | unknownFeatureSet (name : String)
  deriving DecidableEq, Inhabited

namespace ObserveError

def message : ObserveError → String
  | tree error => error.message
  | lookup name cause => "failed to get featuregate " ++ quoted name ++ ": " ++ cause.message
  | missingCustomSelection set =>
    ".spec.featureGateSelection.customNoUpgrade is empty but the feature set " ++ set.name
      ++ " was set"
  | unknownFeatureSet name => ".spec.featureSet " ++ quoted name ++ " not found"

/-- The error behind this one. -/
def cause? : ObserveError → Option ListerError
  | lookup _ cause => some cause
  | _ => none

end ObserveError

end FeatureFlags
