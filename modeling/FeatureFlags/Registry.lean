import FeatureFlags.FeatureNames
import FeatureFlags.FeatureSet
import FeatureFlags.Table

/-!
# The registry of feature sets

What each feature set switches on and off. The built-in registry knows every set
but the custom one, whose names stand on the gate itself.
-/

namespace FeatureFlags

/-- The names that a feature set stands for. -/
abbrev Registry := Table FeatureSet FeatureNames

namespace Registry

def defaultEnabled : List String :=
  ["APIPriorityAndFairness", "RotateKubeletServerCertificate", "DownwardAPIHugePages",
   "OpenShiftPodSecurityAdmission"]

def defaultDisabled : List String :=
  ["CSIMigrationAzureFile", "CSIMigrationvSphere", "RetroactiveDefaultStorageClass"]

def techPreviewEnabled : List String :=
  ["BuildCSIVolumes", "CSIDriverSharedResource", "InsightsConfigAPI",
   "MachineAPIProviderOpenStack", "NodeSwap"]

def devPreviewEnabled : List String :=
  ["DynamicResourceAllocation", "GatewayAPI", "MaxUnavailableStatefulSet"]

def latencySensitiveEnabled : List String := ["TopologyManager"]

/-- Every preview adds to the default set; the developer previews add to the
    technology previews. -/
def builtin : Registry :=
  Table.ofList [
    (.default, ⟨defaultEnabled, defaultDisabled⟩),
    (.techPreviewNoUpgrade, ⟨defaultEnabled ++ techPreviewEnabled, defaultDisabled⟩),
    (.devPreviewNoUpgrade,
      ⟨defaultEnabled ++ techPreviewEnabled ++ devPreviewEnabled, defaultDisabled⟩),
    (.latencySensitive, ⟨defaultEnabled ++ latencySensitiveEnabled, defaultDisabled⟩)]

end Registry

end FeatureFlags
