import FeatureFlags.Gate.Json
import FeatureFlags.Proofs.Json.Decode

/-!
# The grammar of feature gates

Which JSON values encode a feature gate, and which gate each of them encodes. Every part is a
record in either form but for the specification, which is an object always. Keys that are not
named are ignored at every level. The names of feature sets are part of the grammar
(`FeatureSet.Named`).
-/

namespace FeatureFlags

open Decoder

/-- The names of the sets with a known meaning. -/
def FeatureSet.knownNames : List String :=
  ["Default", "TechPreviewNoUpgrade", "DevPreviewNoUpgrade", "LatencySensitive",
    "CustomNoUpgrade"]

/-- The set that a name stands for. No name and the empty name stand for the default set, and a
    name without a known meaning for a set of its own. -/
inductive FeatureSet.Named : Option String → FeatureSet → Prop
  | missing : Named none .default
  | empty : Named (some "") .default
  | default : Named (some "Default") .default
  | techPreviewNoUpgrade : Named (some "TechPreviewNoUpgrade") .techPreviewNoUpgrade
  | devPreviewNoUpgrade : Named (some "DevPreviewNoUpgrade") .devPreviewNoUpgrade
  | latencySensitive : Named (some "LatencySensitive") .latencySensitive
  | customNoUpgrade : Named (some "CustomNoUpgrade") .customNoUpgrade
  | unknown {name : String} (nonempty : name ≠ "") (unreserved : name ∉ knownNames) :
      Named (some name) (.unknown name)

/-- Two lists of names, either of which may be missing. -/
structure FeatureNames.EncodedBy (names : FeatureNames) (v : Json) : Prop where
  record : v.IsRecord 2
  enabled : Json.Strings (v.field? "enabled" 0) names.enabled
  disabled : Json.Strings (v.field? "disabled" 1) names.disabled

/-- A name, which has to be there, and a version, which may be missing or null. -/
structure Identity.EncodedBy (identity : Identity) (v : Json) : Prop where
  record : v.IsRecord 2
  name : v.field? "name" 0 = some (.string identity.name)
  resourceVersion : Json.OptionalText (v.field? "resourceVersion" 1) identity.resourceVersion

/-- The specification: an object with the name of a set and with names, each of which may be
    missing or null. -/
inductive Selection.EncodedBy : Selection → Json → Prop
  | object {members : Tree} {name : Option String} {set : FeatureSet}
      {custom : Option FeatureNames}
      (featureSet : Json.OptionalText (members.get? "featureSet") name)
      (named : FeatureSet.Named name set)
      (customNames : Json.Optional (fun v names => names.EncodedBy v)
        (members.get? "customNoUpgrade") custom) :
      EncodedBy ⟨set, custom⟩ (.object members)

/-- Metadata, which have to be there, and a specification. Without one the default set is
    selected. -/
structure Gate.EncodedBy (gate : Gate) (v : Json) : Prop where
  record : v.IsRecord 2
  metadata : ∃ w, v.field? "metadata" 0 = some w ∧ gate.identity.EncodedBy w
  spec : match v.field? "spec" 1 with
    | none => gate.selection = {}
    | some w => gate.selection.EncodedBy w

namespace FeatureSet

theorem ofName_eq_unknown_iff {name name' : String} :
    ofName name = unknown name' ↔ name = name' ∧ name ≠ "" ∧ name ∉ knownNames := by
  unfold ofName
  split
  · next h => rcases h with rfl | rfl <;> simp [knownNames]
  split
  · next h => simp [h, knownNames]
  split
  · next h => simp [h, knownNames]
  split
  · next h => simp [h, knownNames]
  split
  · next h => simp [h, knownNames]
  · next h h1 h2 h3 h4 =>
    rw [not_or] at h
    simp [knownNames, h, h1, h2, h3, h4]

theorem named_ofName (name : String) : Named (some name) (ofName name) := by
  by_cases empty : name = ""
  · rw [empty]
    exact .empty
  · by_cases known : name ∈ knownNames
    · simp only [knownNames, List.mem_cons, List.not_mem_nil, or_false] at known
      rcases known with rfl | rfl | rfl | rfl | rfl
      · exact .default
      · exact .techPreviewNoUpgrade
      · exact .devPreviewNoUpgrade
      · exact .latencySensitive
      · exact .customNoUpgrade
    · rw [ofName_eq_unknown_iff.2 ⟨rfl, empty, known⟩]
      exact .unknown empty known

theorem named_iff {name : Option String} {set : FeatureSet} :
    Named name set ↔ name.elim .default ofName = set := by
  constructor
  · intro named
    cases named with
    | unknown nonempty unreserved => exact ofName_eq_unknown_iff.2 ⟨rfl, nonempty, unreserved⟩
    | _ => rfl
  · rintro rfl
    cases name with
    | none => exact .missing
    | some name => exact named_ofName name

end FeatureSet

namespace FeatureNames

theorem ofJson_eq_ok_iff {v : Json} {names : FeatureNames} :
    ofJson v = .ok names ↔ names.EncodedBy v := by
  cases v with
  | object members =>
    simp only [ofJson, bind_eq_ok_iff, member?_eq_ok_iff, pure_eq_ok_iff]
    constructor
    · rintro ⟨disabled, hd, enabled, he, rfl⟩
      exact ⟨.object members, strings_iff.2 ⟨enabled, he, rfl⟩, strings_iff.2 ⟨disabled, hd, rfl⟩⟩
    · rintro ⟨-, enabled, disabled⟩
      obtain ⟨e, he, same⟩ := strings_iff.1 enabled
      obtain ⟨d, hd, same'⟩ := strings_iff.1 disabled
      exact ⟨d, hd, e, he, by rw [same, same']⟩
  | array items =>
    simp only [ofJson, bind_eq_ok_iff, item?_eq_ok_iff, pure_eq_ok_iff]
    constructor
    · rintro ⟨enabled, he, disabled, hd, ⟨⟩, short, rfl⟩
      exact ⟨.array (atMost_eq_ok_iff.1 short), strings_iff.2 ⟨enabled, he, rfl⟩,
        strings_iff.2 ⟨disabled, hd, rfl⟩⟩
    · rintro ⟨⟨⟩ | ⟨short⟩, enabled, disabled⟩
      obtain ⟨e, he, same⟩ := strings_iff.1 enabled
      obtain ⟨d, hd, same'⟩ := strings_iff.1 disabled
      exact ⟨e, he, d, hd, (), atMost_eq_ok_iff.2 short, by rw [same, same']⟩
  | _ =>
    constructor
    · rintro ⟨⟩
    · rintro ⟨⟨⟩⟩

end FeatureNames

namespace Identity

theorem ofJson_eq_ok_iff {v : Json} {identity : Identity} :
    ofJson v = .ok identity ↔ identity.EncodedBy v := by
  cases v with
  | object members =>
    simp only [ofJson, bind_eq_ok_iff, member?_eq_ok_iff, pure_eq_ok_iff, require_eq_ok_iff]
    constructor
    · rintro ⟨_, hn, version, hv, name, rfl, rfl⟩
      exact ⟨.object members, part_string_iff.1 hn, optionalText_iff.2 ⟨version, hv, rfl⟩⟩
    · rintro ⟨-, name, version⟩
      obtain ⟨found, hv, same⟩ := optionalText_iff.1 version
      exact ⟨_, part_string_iff.2 name, found, hv, identity.name, rfl, by rw [same]⟩
  | array items =>
    simp only [ofJson, bind_eq_ok_iff, item?_eq_ok_iff, pure_eq_ok_iff, require_eq_ok_iff]
    constructor
    · rintro ⟨_, hn, name, rfl, version, hv, ⟨⟩, short, rfl⟩
      exact ⟨.array (atMost_eq_ok_iff.1 short), part_string_iff.1 hn,
        optionalText_iff.2 ⟨version, hv, rfl⟩⟩
    · rintro ⟨⟨⟩ | ⟨short⟩, name, version⟩
      obtain ⟨found, hv, same⟩ := optionalText_iff.1 version
      exact ⟨_, part_string_iff.2 name, identity.name, rfl, found, hv, (),
        atMost_eq_ok_iff.2 short, by rw [same]⟩
  | _ =>
    constructor
    · rintro ⟨⟩
    · rintro ⟨⟨⟩⟩

end Identity

namespace Selection

/-- Within a specification names are refused for the same reasons, with another wording. -/
theorem namesInSpec_eq_ok_iff {v : Json} {names : FeatureNames} :
    namesInSpec v = .ok names ↔ names.EncodedBy v := by
  rw [← FeatureNames.ofJson_eq_ok_iff, namesInSpec]
  split
  · next refused => simp [refused]
  · rfl

theorem optionalNames_iff {v? : Option Json} {custom : Option FeatureNames} :
    Json.Optional (fun v names => names.EncodedBy v) v? custom ↔
      ∃ found, Part (nullable namesInSpec) v? found ∧ found.join = custom := by
  refine optional_iff (fun v names => namesInSpec_eq_ok_iff) ?_
  rintro names ⟨⟨⟩⟩

theorem decodeSet_eq_ok_iff {v : Json} {set : FeatureSet} :
    decodeSet v = .ok set ↔
      ∃ name, nullable string v = .ok name ∧ name.elim .default FeatureSet.ofName = set :=
  map_eq_ok_iff

/-- A set that is decoded, or none, goes back to a name that may be missing or null. -/
theorem optionalSet_iff {v? : Option Json} {set : FeatureSet} :
    (∃ found, Part decodeSet v? found ∧ found.getD .default = set) ↔
      ∃ name, Json.OptionalText v? name ∧ FeatureSet.Named name set := by
  simp only [optionalText_iff, FeatureSet.named_iff]
  constructor
  · rintro ⟨found, part, rfl⟩
    cases part with
    | missing => exact ⟨none, ⟨none, .missing, rfl⟩, rfl⟩
    | given decoded =>
      obtain ⟨name, accepted, rfl⟩ := decodeSet_eq_ok_iff.1 decoded
      exact ⟨name, ⟨some name, .given accepted, rfl⟩, rfl⟩
  · rintro ⟨name, ⟨found, part, rfl⟩, rfl⟩
    cases part with
    | missing => exact ⟨none, .missing, rfl⟩
    | @given v name accepted =>
      exact ⟨_, .given (decodeSet_eq_ok_iff.2 ⟨name, accepted, rfl⟩), rfl⟩

theorem ofSpec_eq_ok_iff {v : Json} {selection : Selection} :
    ofSpec v = .ok selection ↔ selection.EncodedBy v := by
  cases v with
  | object members =>
    simp only [ofSpec, ofTree, bind_eq_ok_iff, member?_eq_ok_iff, pure_eq_ok_iff]
    constructor
    · rintro ⟨custom, hc, set, hs, rfl⟩
      obtain ⟨name, text, named⟩ := optionalSet_iff.1 ⟨set, hs, rfl⟩
      exact .object text named (optionalNames_iff.2 ⟨custom, hc, rfl⟩)
    · rintro ⟨text, named, names⟩
      obtain ⟨set, hs, same⟩ := optionalSet_iff.2 ⟨_, text, named⟩
      obtain ⟨custom, hc, same'⟩ := optionalNames_iff.1 names
      exact ⟨custom, hc, set, hs, by rw [same, same']⟩
  | _ =>
    constructor
    · rintro ⟨⟩
    · rintro ⟨⟩

/-- A specification that may be missing, for which nothing is selected but the default. -/
theorem part_ofSpec_iff {v? : Option Json} {selection : Selection} :
    (∃ found, Part ofSpec v? found ∧ found.getD {} = selection) ↔
      match v? with
        | none => selection = {}
        | some v => selection.EncodedBy v := by
  cases v? with
  | none =>
    constructor
    · rintro ⟨_, ⟨⟩, rfl⟩
      rfl
    · rintro rfl
      exact ⟨none, .missing, rfl⟩
  | some v =>
    constructor
    · rintro ⟨_, part, rfl⟩
      cases part with
      | given decoded => exact ofSpec_eq_ok_iff.1 decoded
    · intro encoded
      exact ⟨_, .given (ofSpec_eq_ok_iff.2 encoded), rfl⟩

end Selection

namespace Gate

/-- A gate is decoded from its two fields, whichever form the record has. -/
theorem ofJson_eq_ok_iff_fields {v : Json} {gate : Gate} :
    ofJson v = .ok gate ↔ v.IsRecord 2 ∧
      (∃ w, v.field? "metadata" 0 = some w ∧ Identity.ofJson w = .ok gate.identity) ∧
      ∃ found, Part Selection.ofSpec (v.field? "spec" 1) found ∧
        found.getD {} = gate.selection := by
  cases v with
  | object members =>
    simp only [ofJson, bind_eq_ok_iff, member?_eq_ok_iff, pure_eq_ok_iff, require_eq_ok_iff]
    constructor
    · rintro ⟨_, hi, selection, hs, identity, rfl, rfl⟩
      exact ⟨.object members, part_some_iff.1 hi, selection, hs, rfl⟩
    · rintro ⟨-, metadata, selection, hs, same⟩
      exact ⟨_, part_some_iff.2 metadata, selection, hs, gate.identity, rfl, by rw [same]⟩
  | array items =>
    simp only [ofJson, bind_eq_ok_iff, item?_eq_ok_iff, pure_eq_ok_iff, require_eq_ok_iff]
    constructor
    · rintro ⟨_, hi, identity, rfl, selection, hs, ⟨⟩, short, rfl⟩
      exact ⟨.array (atMost_eq_ok_iff.1 short), part_some_iff.1 hi, selection, hs, rfl⟩
    · rintro ⟨⟨⟩ | ⟨short⟩, metadata, selection, hs, same⟩
      exact ⟨_, part_some_iff.2 metadata, gate.identity, rfl, selection, hs, (),
        atMost_eq_ok_iff.2 short, by rw [same]⟩
  | _ =>
    constructor
    · rintro ⟨⟩
    · rintro ⟨⟨⟩, -⟩

/-- A value is decoded exactly if it encodes a gate, and to this gate. -/
theorem ofJson_eq_ok_iff_encodedBy (v : Json) (gate : Gate) :
    ofJson v = .ok gate ↔ gate.EncodedBy v := by
  rw [ofJson_eq_ok_iff_fields]
  simp only [Identity.ofJson_eq_ok_iff, Selection.part_ofSpec_iff]
  constructor
  · rintro ⟨record, metadata, spec⟩
    exact ⟨record, metadata, spec⟩
  · rintro ⟨record, metadata, spec⟩
    exact ⟨record, metadata, spec⟩

/-- An object with a set whose name is empty, a null and keys that are ignored, an array whose
    names are in an array as well, and a value that encodes no gate since its specification is
    null. -/
theorem ofJson_eq_ok_iff_encodedBy_forms :
    let object := Json.ofMembers [
      ("metadata", .ofMembers [("name", .string "cluster"), ("resourceVersion", .null),
        ("uid", .string "7")]),
      ("spec", .ofMembers [("featureSet", .string ""),
        ("customNoUpgrade", .ofMembers [("enabled", .ofStrings ["A"]), ("ignored", .null)])]),
      ("status", .null)]
    let array := Json.array [.array [.string "cluster", .string "7"],
      .ofMembers [("featureSet", .string "TechPreviewNoUpgrade"),
        ("customNoUpgrade", .array [.ofStrings ["A"], .ofStrings ["B"]])]]
    let refused := Json.ofMembers [("metadata", .ofMembers [("name", .string "cluster")]),
      ("spec", .null)]
    ((Gate.cluster .default).withCustom ⟨["A"], []⟩).EncodedBy object ∧
      ofJson array = .ok ⟨⟨"cluster", some "7"⟩, ⟨.techPreviewNoUpgrade, some ⟨["A"], ["B"]⟩⟩⟩ ∧
      ∀ gate, ofJson refused ≠ .ok gate := by
  intro object array refused
  have identity : Identity.EncodedBy ⟨"cluster", some "7"⟩
      (.array [.string "cluster", .string "7"]) :=
    ⟨.array (by decide), rfl, .given rfl⟩
  have names : FeatureNames.EncodedBy ⟨["A"], ["B"]⟩
      (.array [.ofStrings ["A"], .ofStrings ["B"]]) :=
    ⟨.array (by decide), .given ["A"], .given ["B"]⟩
  refine ⟨(ofJson_eq_ok_iff_encodedBy object _).1 rfl,
    (ofJson_eq_ok_iff_encodedBy array _).2 ⟨.array (by decide), ⟨_, rfl, identity⟩, ?_⟩, ?_⟩
  · exact .object (.given rfl) .techPreviewNoUpgrade (.given names)
  · intro gate read
    have spec : gate.selection.EncodedBy .null :=
      ((ofJson_eq_ok_iff_encodedBy refused gate).1 read).spec
    generalize gate.selection = selection at spec
    cases spec

end Gate

end FeatureFlags
