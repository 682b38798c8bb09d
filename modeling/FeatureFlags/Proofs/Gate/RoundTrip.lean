import FeatureFlags.Proofs.Gate.Grammar

/-!
# Writing and reading back

A gate that is written as JSON is read back as it was, but for its feature set, which comes
back as the set of its name. A set that has no known meaning and yet the name of one that has
is therefore lost; no reading ever makes such a set. So what is written of a gate that was
read is a normal form: it is read as that gate, and two values have the same one exactly if they
are read as the same gate.
-/

namespace FeatureFlags

open Decoder

namespace FeatureSet

/-- A set without a known meaning whose name is read as another set. -/
def Misnamed (set : FeatureSet) : Prop :=
  ∃ name, set = unknown name ∧ (name = "" ∨ name ∈ knownNames)

theorem ofName_name_iff {set : FeatureSet} : ofName set.name = set ↔ ¬ set.Misnamed := by
  cases set with
  | unknown s =>
    rw [name, ofName_eq_unknown_iff, Misnamed]
    simp
  | _ => simp [name, ofName, Misnamed]

theorem Named.not_misnamed {name : Option String} {set : FeatureSet} (named : Named name set) :
    ¬ set.Misnamed := by
  rintro ⟨other, rfl, reserved⟩
  cases named with
  | unknown nonempty unreserved => exact reserved.elim nonempty unreserved

end FeatureSet

theorem FeatureNames.ofJson_toJson (names : FeatureNames) : ofJson names.toJson = .ok names := by
  refine ofJson_eq_ok_iff.2 ⟨.object _, ?_, ?_⟩
  · have enabled : names.toJson.field? "enabled" 0 = some (.ofStrings names.enabled) := by
      simp [toJson, Json.ofMembers, Json.field?, Tree.ofList, Tree.get?_put]
    rw [enabled]
    exact .given names.enabled
  · have disabled : names.toJson.field? "disabled" 1 = some (.ofStrings names.disabled) := by
      simp [toJson, Json.ofMembers, Json.field?, Tree.ofList, Tree.get?_put]
    rw [disabled]
    exact .given names.disabled

theorem Identity.ofJson_toJson (identity : Identity) :
    ofJson identity.toJson = .ok identity := by
  obtain ⟨name, version⟩ := identity
  refine ofJson_eq_ok_iff.2 ⟨.object _, ?_, ?_⟩
  · cases version <;> simp [toJson, Json.ofMembers, Json.field?, Tree.ofList, Tree.get?_put]
  · cases version with
    | none =>
      have absent : (toJson ⟨name, none⟩).field? "resourceVersion" 1 = none := by
        simp [toJson, Json.ofMembers, Json.field?, Tree.ofList, Tree.get?_put]
      rw [absent]
      exact .missing
    | some text =>
      have present : (toJson ⟨name, some text⟩).field? "resourceVersion" 1 =
          some (.string text) := by
        simp [toJson, Json.ofMembers, Json.field?, Tree.ofList, Tree.get?_put]
      rw [present]
      exact .given rfl

/-- The set comes back as the set of its name. -/
theorem Selection.ofSpec_toJson (selection : Selection) :
    ofSpec selection.toJson =
      .ok { selection with featureSet := .ofName selection.featureSet.name } := by
  obtain ⟨set, custom⟩ := selection
  have named : (toTree ⟨set, custom⟩).get? "featureSet" = some (.string set.name) := by
    cases custom <;> simp [toTree, Tree.ofList, Tree.get?_put, FeatureSet.toJson]
  have listed : Json.Optional (fun v names => names.EncodedBy v)
      ((toTree ⟨set, custom⟩).get? "customNoUpgrade") custom := by
    cases custom with
    | none =>
      have absent : (toTree ⟨set, none⟩).get? "customNoUpgrade" = none := by
        simp [toTree, Tree.ofList, Tree.get?_put]
      rw [absent]
      exact .missing
    | some names =>
      have present : (toTree ⟨set, some names⟩).get? "customNoUpgrade" = some names.toJson := by
        simp [toTree, Tree.ofList, Tree.get?_put]
      rw [present]
      exact .given (FeatureNames.ofJson_eq_ok_iff.1 names.ofJson_toJson)
  have text : Json.OptionalText ((toTree ⟨set, custom⟩).get? "featureSet") (some set.name) := by
    rw [named]
    exact .given rfl
  exact ofSpec_eq_ok_iff.2 (.object text (FeatureSet.named_ofName _) listed)

theorem Selection.not_misnamed_of_ofSpec {v : Json} {selection : Selection}
    (read : ofSpec v = .ok selection) : ¬ selection.featureSet.Misnamed := by
  cases ofSpec_eq_ok_iff.1 read with
  | object text named listed => exact named.not_misnamed

namespace Gate

/-- What is read back of a gate that was written. -/
theorem ofJson_toJson (gate : Gate) :
    ofJson gate.toJson = .ok { gate with
      selection := { gate.selection with featureSet := .ofName gate.featureSet.name } } := by
  have metadata : gate.toJson.field? "metadata" 0 = some gate.identity.toJson := by
    simp [toJson, Json.ofMembers, Json.field?, Tree.ofList, Tree.get?_put]
  have spec : gate.toJson.field? "spec" 1 = some gate.selection.toJson := by
    simp [toJson, Json.ofMembers, Json.field?, Tree.ofList, Tree.get?_put]
  refine ofJson_eq_ok_iff_fields.2 ⟨.object _, ⟨_, metadata, gate.identity.ofJson_toJson⟩, ?_⟩
  rw [spec]
  exact ⟨_, .given gate.selection.ofSpec_toJson, rfl⟩

theorem not_misnamed_of_ofJson {v : Json} {gate : Gate} (read : ofJson v = .ok gate) :
    ¬ gate.featureSet.Misnamed := by
  obtain ⟨-, -, found, part, same⟩ := ofJson_eq_ok_iff_fields.1 read
  rw [featureSet, ← same]
  generalize v.field? "spec" 1 = spec at part
  cases part with
  | missing => rintro ⟨name, ⟨⟩, -⟩
  | given decoded => exact Selection.not_misnamed_of_ofSpec decoded

theorem ofJson_toJson_iff (gate : Gate) :
    ofJson gate.toJson = .ok gate ↔ ¬ gate.featureSet.Misnamed := by
  rw [ofJson_toJson, ← FeatureSet.ofName_name_iff, Except.ok.injEq]
  obtain ⟨identity, set, custom⟩ := gate
  simp [featureSet]

/-- A gate that was read is read back from what is written of it, so that what is written is the
    same for two values exactly if they are read as the same gate. -/
theorem toJson_eq_iff_of_ofJson {v v' : Json} {gate gate' : Gate} (read : ofJson v = .ok gate)
    (read' : ofJson v' = .ok gate') : gate'.toJson = gate.toJson ↔ ofJson v' = ofJson v := by
  have back := gate.ofJson_toJson_iff.2 (not_misnamed_of_ofJson read)
  have back' := gate'.ofJson_toJson_iff.2 (not_misnamed_of_ofJson read')
  constructor
  · intro same
    rw [read, read', ← back, ← back', same]
  · intro same
    rw [read, read', Except.ok.injEq] at same
    rw [same]

/-- Writing a gate and reading it back changes its set to the set of its name, which is another
    one for a misnamed set alone. No value is read as a gate with such a set; so what is written
    of a gate that was read from a value is read as this gate again, and is the normal form of all
    values that are. -/
theorem json_round_trip (gate : Gate) :
    ofJson gate.toJson = .ok { gate with
      selection := { gate.selection with featureSet := .ofName gate.featureSet.name } } ∧
    (ofJson gate.toJson = .ok gate ↔
      ¬ ∃ name, gate.featureSet = .unknown name ∧ (name = "" ∨ name ∈ FeatureSet.knownNames)) ∧
    ∀ v, ofJson v = .ok gate →
      (¬ ∃ name, gate.featureSet = .unknown name ∧
        (name = "" ∨ name ∈ FeatureSet.knownNames)) ∧
      ofJson gate.toJson = .ok gate ∧
      ∀ v' gate', ofJson v' = .ok gate' →
        (gate'.toJson = gate.toJson ↔ ofJson v' = ofJson v) := by
  refine ⟨gate.ofJson_toJson, gate.ofJson_toJson_iff, fun v read => ?_⟩
  have named := not_misnamed_of_ofJson read
  exact ⟨named, gate.ofJson_toJson_iff.2 named,
    fun v' gate' read' => toJson_eq_iff_of_ofJson read read'⟩

/-- A gate in array form with nothing but nulls and defaults, its normal form, and a gate that is
    read back with another set. -/
theorem json_round_trip_of_arrays :
    let v := Json.array [.array [.string "cluster", .null],
      .ofMembers [("featureSet", .string ""), ("customNoUpgrade", .array [.ofStrings ["A"]]),
        ("ignored", .null)]]
    let gate := (Gate.cluster .default).withCustom ⟨["A"], []⟩
    let misnamed := Gate.cluster (.unknown "Default")
    ofJson v = .ok gate ∧ ofJson gate.toJson = .ok gate ∧
      gate.toJson = .ofMembers [("metadata", .ofMembers [("name", .string "cluster")]),
        ("spec", .ofMembers [("featureSet", .string "Default"),
          ("customNoUpgrade",
            .ofMembers [("enabled", .ofStrings ["A"]), ("disabled", .ofStrings [])])])] ∧
      ofJson misnamed.toJson = .ok (Gate.cluster .default) ∧
      ofJson misnamed.toJson ≠ .ok misnamed := by
  intro v gate misnamed
  have read : ofJson v = .ok gate := by rfl
  obtain ⟨-, -, back⟩ := json_round_trip gate
  obtain ⟨lost, kept, -⟩ := json_round_trip misnamed
  refine ⟨read, (back v read).2.1, rfl, lost, fun same => kept.1 same ⟨"Default", rfl, ?_⟩⟩
  simp [FeatureSet.knownNames]

end Gate

end FeatureFlags
