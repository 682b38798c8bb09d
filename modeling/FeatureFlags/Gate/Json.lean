import FeatureFlags.Gate
import FeatureFlags.Json.Decode
import FeatureFlags.Json.Document

/-!
# Feature gates as JSON

How gates and their parts are written and read. Each part has a writer (`toJson`),
a decoder of values (`ofJson`) and the shape in which a text of it is read.
-/

namespace FeatureFlags

namespace FeatureSet

def toJson (set : FeatureSet) : Json := .string set.name

def ofJson : Decoder FeatureSet := fun value => ofName <$> Decoder.string value

end FeatureSet

namespace FeatureNames

def toJson (names : FeatureNames) : Json :=
  .ofMembers [("enabled", .ofStrings names.enabled), ("disabled", .ofStrings names.disabled)]

/-- Either list may be missing. -/
def ofJson : Decoder FeatureNames
  | .object members => do
    let disabled ← Decoder.member? members "disabled" (Decoder.list Decoder.string)
    let enabled ← Decoder.member? members "enabled" (Decoder.list Decoder.string)
    return ⟨enabled.getD [], disabled.getD []⟩
  | .array items => do
    let enabled ← Decoder.item? items 0 (Decoder.list Decoder.string)
    let disabled ← Decoder.item? items 1 (Decoder.list Decoder.string)
    Decoder.atMost 2 items
    return ⟨enabled.getD [], disabled.getD []⟩
  | other => .error (.wrongKind other "struct FeatureGateEnabledDisabled")

def fields : List (String × Shape) := [("enabled", .whole), ("disabled", .whole)]

end FeatureNames

namespace Identity

def toJson (identity : Identity) : Json :=
  .ofMembers (("name", .string identity.name) ::
    (identity.resourceVersion.map fun v => ("resourceVersion", .string v)).toList)

/-- The name has to be there. -/
def ofJson : Decoder Identity
  | .object members => do
    let name ← Decoder.member? members "name" Decoder.string
    let version ← Decoder.member? members "resourceVersion" (Decoder.nullable Decoder.string)
    return ⟨← Decoder.require (.missingField "name") name, version.join⟩
  | .array items => do
    let name ← Decoder.item? items 0 Decoder.string
    let name ← Decoder.require (.tooShort 0 "ObjectMeta" 2) name
    let version ← Decoder.item? items 1 (Decoder.nullable Decoder.string)
    Decoder.atMost 2 items
    return ⟨name, version.join⟩
  | other => .error (.wrongKind other "struct ObjectMeta")

def shape : Shape := .record false [("name", .whole), ("resourceVersion", .whole)]

end Identity

namespace Selection

def toTree (selection : Selection) : Tree :=
  .ofList (("featureSet", selection.featureSet.toJson) ::
    (selection.custom.map fun names => ("customNoUpgrade", names.toJson)).toList)

def toJson (selection : Selection) : Json := .object selection.toTree

/-- A missing set and `null` are the default. -/
def decodeSet : Decoder FeatureSet := fun value =>
  (·.elim .default .ofName) <$> Decoder.nullable Decoder.string value

/-- The members of an object, with the decoder for the names given. -/
def ofTree (members : Tree) (names : Decoder FeatureNames) : Except DecodeError Selection := do
  let custom ← Decoder.member? members "customNoUpgrade" (Decoder.nullable names)
  let set ← Decoder.member? members "featureSet" decodeSet
  return ⟨set.getD .default, custom.join⟩

def ofJson : Decoder Selection
  | .object members => ofTree members FeatureNames.ofJson
  | .array items => do
    let set ← Decoder.item? items 0 decodeSet
    let custom ← Decoder.item? items 1 (Decoder.nullable FeatureNames.ofJson)
    Decoder.atMost 2 items
    return ⟨set.getD .default, custom.join⟩
  | other => .error (.wrongKind other "struct FeatureGateSelection")

def fields (kept : Bool) : List (String × Shape) :=
  [("featureSet", .whole), ("customNoUpgrade", .record kept FeatureNames.fields)]

def shape : Shape := .record false (fields false)

/-! The specification of a gate holds the members of its selection. It is always an
object, and is read whole before the members are looked at. -/

/-- The names inside a specification. -/
def namesInSpec : Decoder FeatureNames := fun value =>
  match FeatureNames.ofJson value with
  | .error (.tooLong length) => .error (.tooLongInside length 2)
  | result => result

/-- The selection of a specification. -/
def ofSpec : Decoder Selection
  | .object members => ofTree members namesInSpec
  | other => .error (.wrongKind other "struct FeatureGateSpec")

def specShape : Shape := .record true (fields true)

end Selection

namespace Gate

def toJson (gate : Gate) : Json :=
  .ofMembers [("metadata", gate.identity.toJson), ("spec", gate.selection.toJson)]

/-- A missing specification selects the default set. -/
def ofJson : Decoder Gate
  | .object members => do
    let identity ← Decoder.member? members "metadata" Identity.ofJson
    let selection ← Decoder.member? members "spec" Selection.ofSpec
    return ⟨← Decoder.require (.missingField "metadata") identity, selection.getD {}⟩
  | .array items => do
    let identity ← Decoder.item? items 0 Identity.ofJson
    let identity ← Decoder.require (.tooShort 0 "FeatureGate" 2) identity
    let selection ← Decoder.item? items 1 Selection.ofSpec
    Decoder.atMost 2 items
    return ⟨identity, selection.getD {}⟩
  | other => .error (.wrongKind other "struct FeatureGate")

def shape : Shape := .record false [("metadata", Identity.shape), ("spec", Selection.specShape)]

end Gate

end FeatureFlags
