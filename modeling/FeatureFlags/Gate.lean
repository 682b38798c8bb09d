import FeatureFlags.FeatureNames
import FeatureFlags.FeatureSet

/-!
# Feature gates

The object in which a cluster says with which features it runs. Observers look at
the one of the name `cluster`.
-/

namespace FeatureFlags

/-- Name and version of a stored object. -/
structure Identity where
  name : String
  resourceVersion : Option String := none
  deriving DecidableEq, Inhabited

/-- The mode that is selected, and the names for the custom mode. -/
structure Selection where
  featureSet : FeatureSet := .default
  custom : Option FeatureNames := none
  deriving DecidableEq, Inhabited

/-- A feature gate. -/
structure Gate where
  identity : Identity
  selection : Selection := {}
  deriving DecidableEq, Inhabited

namespace Gate

/-- The name of the one gate that counts. -/
def clusterName : String := "cluster"

def name (gate : Gate) : String := gate.identity.name

def featureSet (gate : Gate) : FeatureSet := gate.selection.featureSet

def custom (gate : Gate) : Option FeatureNames := gate.selection.custom

/-- The gate of a name that selects a set. -/
def ofSet (name : String) (set : FeatureSet) : Gate := ⟨⟨name, none⟩, ⟨set, none⟩⟩

/-- The cluster's gate selecting a set. -/
def cluster (set : FeatureSet) : Gate := ofSet clusterName set

def withCustom (gate : Gate) (names : FeatureNames) : Gate :=
  { gate with selection := { gate.selection with custom := some names } }

def withResourceVersion (gate : Gate) (version : String) : Gate :=
  { gate with identity := { gate.identity with resourceVersion := some version } }

/-- The cluster's gate in the custom mode. -/
def ofNames (names : FeatureNames) : Gate := (cluster .customNoUpgrade).withCustom names

end Gate

end FeatureFlags
