/-!
# Feature names and flags

The names of the features that are switched on and of those that are switched off,
and the flags they become: `name=true` for the former, then `name=false` for the
latter.
-/

namespace FeatureFlags

/-- Enabled and disabled feature names, in order and with repetitions. -/
structure FeatureNames where
  enabled : List String := []
  disabled : List String := []
  deriving DecidableEq, Inhabited

def enabledFlag (name : String) : String := name ++ "=true"

def disabledFlag (name : String) : String := name ++ "=false"

namespace FeatureNames

/-- The flags of the names, enabled ones first. -/
def flags (names : FeatureNames) : List String :=
  names.enabled.map enabledFlag ++ names.disabled.map disabledFlag

/-- The names that pass a test. -/
def filter (names : FeatureNames) (allowed : String → Bool) : FeatureNames :=
  ⟨names.enabled.filter allowed, names.disabled.filter allowed⟩

end FeatureNames

end FeatureFlags
