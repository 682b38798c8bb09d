/-!
# Feature sets

The mode that a cluster's feature gate selects. A mode is known by its name; a name
without a known meaning is kept as it is, to be reported later.
-/

namespace FeatureFlags

/-- A mode of the cluster's features. -/
inductive FeatureSet
  /-- The features that every cluster runs with. -/
  | default
  /-- Technology previews; the cluster can no longer be upgraded. -/
  | techPreviewNoUpgrade
  /-- Developer previews; the cluster can no longer be upgraded. -/
  | devPreviewNoUpgrade
  /-- Features for latency-sensitive workloads. -/
  | latencySensitive
  /-- The names that the feature gate itself lists. -/
  | customNoUpgrade
  /-- A name without a known meaning. -/
  | unknown (name : String)
  deriving DecidableEq, Inhabited

namespace FeatureSet

def name : FeatureSet → String
  | default => "Default"
  | techPreviewNoUpgrade => "TechPreviewNoUpgrade"
  | devPreviewNoUpgrade => "DevPreviewNoUpgrade"
  | latencySensitive => "LatencySensitive"
  | customNoUpgrade => "CustomNoUpgrade"
  | unknown name => name

/-- The set of a name; the empty name stands for the default. -/
def ofName (name : String) : FeatureSet :=
  if name = "" ∨ name = "Default" then default
  else if name = "TechPreviewNoUpgrade" then techPreviewNoUpgrade
  else if name = "DevPreviewNoUpgrade" then devPreviewNoUpgrade
  else if name = "LatencySensitive" then latencySensitive
  else if name = "CustomNoUpgrade" then customNoUpgrade
  else unknown name

/-- Whether the gate lists the names itself. -/
def isCustom (set : FeatureSet) : Bool := set = customNoUpgrade

def isUnknown : FeatureSet → Bool
  | unknown _ => true
  | _ => false

end FeatureSet

end FeatureFlags
