import FeatureFlags.Proofs.Flags.Tokens
import Mathlib.Data.List.Basic

/-!
# The list of known features

Outside the custom mode the flags of an observer are those of a set in its registry whose names
the observer knows. A list of known features takes the flags of all other names away and touches
nothing else, so that a longer list leaves more flags; only the empty list, which stands for all
names, does not fit into this order. In the custom mode the names on the gate are all that counts
(`FlagsObserver.flags_by_known`).
-/

namespace FeatureFlags

/-- The flag belongs to one of the names. -/
def FlagOf (names : List String) (flag : String) : Prop :=
  ∃ name ∈ names, flag = enabledFlag name ∨ flag = disabledFlag name

instance (names : List String) (flag : String) : Decidable (FlagOf names flag) :=
  inferInstanceAs (Decidable (∃ name ∈ names, _))

theorem flagOf_enabledFlag_iff {names : List String} {name : String} :
    FlagOf names (enabledFlag name) ↔ name ∈ names := by
  simp [FlagOf]

theorem flagOf_disabledFlag_iff {names : List String} {name : String} :
    FlagOf names (disabledFlag name) ↔ name ∈ names := by
  simp [FlagOf]

namespace FeatureNames

/-- Leaving names out leaves their flags out. -/
theorem flags_filter (names : FeatureNames) (known : List String) :
    (names.filter (· ∈ known)).flags = names.flags.filter (FlagOf known ·) := by
  simp [flags, filter, List.filter_map, Function.comp_def, flagOf_enabledFlag_iff,
    flagOf_disabledFlag_iff]

/-- A test that lets more names pass leaves more flags. -/
theorem flags_filter_sublist (names : FeatureNames) {allowed allowed' : String → Bool}
    (more : ∀ name, allowed name = true → allowed' name = true) :
    (names.filter allowed).flags.Sublist (names.filter allowed').flags := by
  have kept (list : List String) : (list.filter allowed).Sublist (list.filter allowed') :=
    List.monotone_filter_right list more
  exact (kept names.enabled |>.map enabledFlag).append (kept names.disabled |>.map disabledFlag)

end FeatureNames

namespace FlagsObserver

variable {observer observer' : FlagsObserver} {gate gate' : Gate} {name : String}

theorem flags_of_registry (ordinary : gate.featureSet ≠ .customNoUpgrade) :
    observer.flags gate =
      match observer.registry.get? gate.featureSet with
      | some names => .ok (names.filter observer.allows).flags
      | none => .error (.unknownFeatureSet gate.featureSet.name) := by
  have other : ¬ gate.featureSet.isCustom = true := by simpa [FeatureSet.isCustom] using ordinary
  unfold flags
  exact if_neg other

theorem allows_iff :
    observer.allows name = true ↔ observer.knownFeatures = [] ∨ name ∈ observer.knownFeatures := by
  simp [allows, allowsAll]

theorem allows_of_nil (all : observer.knownFeatures = []) : observer.allows = fun _ => true := by
  funext name
  exact allows_iff.2 (.inl all)

theorem allows_of_ne_nil (some_known : observer.knownFeatures ≠ []) :
    observer.allows = (decide <| · ∈ observer.knownFeatures) := by
  funext name
  rw [Bool.eq_iff_iff, allows_iff, decide_eq_true_iff]
  simp [some_known]

/-- Of the list of known features it matters which features are in it. -/
theorem allows_eq_of_same_elements
    (same : ∀ name, name ∈ observer.knownFeatures ↔ name ∈ observer'.knownFeatures) :
    observer.allows = observer'.allows := by
  have both_empty : observer.knownFeatures = [] ↔ observer'.knownFeatures = [] := by
    simp only [List.eq_nil_iff_forall_not_mem, same]
  funext name
  rw [Bool.eq_iff_iff, allows_iff, allows_iff, both_empty, same]

/-- Only the registry and the names allowed bear on the flags of a gate. -/
theorem flags_congr (registry : observer.registry = observer'.registry)
    (allowed : observer.allows = observer'.allows) (gate : Gate) :
    observer.flags gate = observer'.flags gate := by
  unfold flags
  rw [registry, allowed]

/-- The names allowed bear on the flags alone and not on the errors. -/
theorem flags_eq_error_iff_of_registry_eq (registry : observer.registry = observer'.registry)
    (gate : Gate) (error : ObserveError) :
    observer.flags gate = .error error ↔ observer'.flags gate = .error error := by
  by_cases custom : gate.featureSet = .customNoUpgrade
  · rw [flags_of_custom custom, flags_of_custom custom]
  · rw [flags_of_registry custom, flags_of_registry custom, registry]
    cases observer'.registry.get? gate.featureSet <;> simp

/-- An observer that knows more has more flags. -/
theorem exists_flags_sublist (registry : observer.registry = observer'.registry)
    (more : ∀ name, observer.allows name = true → observer'.allows name = true)
    {flags : List String} (derived : observer.flags gate = .ok flags) :
    ∃ flags', observer'.flags gate = .ok flags' ∧ flags.Sublist flags' := by
  by_cases custom : gate.featureSet = .customNoUpgrade
  · rw [flags_of_custom custom] at derived
    exact ⟨flags, by rw [flags_of_custom custom, derived], List.Sublist.refl flags⟩
  · rw [flags_of_registry custom, registry] at derived
    rw [flags_of_registry custom]
    cases found : observer'.registry.get? gate.featureSet with
    | none =>
      rw [found] at derived
      cases derived
    | some names =>
      rw [found] at derived
      obtain rfl := Except.ok.inj derived
      exact ⟨_, rfl, names.flags_filter_sublist more⟩

/-- A list of known features is either empty, and all names are allowed, or the names in it are. -/
theorem allows_mono
    (more : (observer.knownFeatures ≠ [] ∧ observer.knownFeatures ⊆ observer'.knownFeatures) ∨
      observer'.knownFeatures = []) (name : String) (allowed : observer.allows name = true) :
    observer'.allows name = true := by
  rw [allows_iff] at allowed ⊢
  rcases more with ⟨some_known, inside⟩ | all
  · rcases allowed with none_known | known
    · exact absurd none_known some_known
    · exact .inr (inside known)
  · exact .inl all

/-- What a list of known features does. Of two observers over one registry, those whose lists have
    the same elements have the same flags for every gate, and one whose list is not empty and is
    part of the other's, or beside whose list the other's is empty, has flags that can be had from
    the other's by leaving some out; errors are the same for all lists. For a set of the registry a
    list that is not empty takes from the flags of all names those of names that are not in it: the
    others stay in order and as often as they were, the enabled ones first. In the custom mode
    neither the list nor the registry matters, and in all other modes the names on the gate do
    not. -/
theorem flags_by_known :
    (∀ observer observer' : FlagsObserver, observer.registry = observer'.registry →
      ((∀ name, name ∈ observer.knownFeatures ↔ name ∈ observer'.knownFeatures) →
        ∀ gate, observer.flags gate = observer'.flags gate) ∧
      ((observer.knownFeatures ≠ [] ∧ observer.knownFeatures ⊆ observer'.knownFeatures) ∨
          observer'.knownFeatures = [] →
        ∀ gate flags, observer.flags gate = .ok flags →
          ∃ flags', observer'.flags gate = .ok flags' ∧ flags.Sublist flags') ∧
      ∀ gate error, observer.flags gate = .error error ↔ observer'.flags gate = .error error) ∧
    (∀ (observer : FlagsObserver) (gate : Gate) (names : FeatureNames),
      observer.knownFeatures ≠ [] → gate.featureSet ≠ .customNoUpgrade →
      observer.registry.get? gate.featureSet = some names →
        { observer with knownFeatures := [] }.flags gate = .ok names.flags ∧
        observer.flags gate =
          .ok (names.flags.filter fun flag => FlagOf observer.knownFeatures flag) ∧
        observer.flags gate =
          .ok ((names.enabled.filter (· ∈ observer.knownFeatures)).map enabledFlag ++
            (names.disabled.filter (· ∈ observer.knownFeatures)).map disabledFlag)) ∧
    (∀ (observer observer' : FlagsObserver) (gate gate' : Gate),
      gate.featureSet = .customNoUpgrade → gate'.featureSet = .customNoUpgrade →
      gate.custom = gate'.custom → observer.flags gate = observer'.flags gate') ∧
    ∀ (observer : FlagsObserver) (gate gate' : Gate),
      gate.featureSet ≠ .customNoUpgrade → gate'.featureSet = gate.featureSet →
      observer.flags gate = observer.flags gate' := by
  refine ⟨?_, ?_, ?_, ?_⟩
  · intro observer observer' registry
    refine ⟨?_, ?_, flags_eq_error_iff_of_registry_eq registry⟩
    · intro same gate
      exact flags_congr registry (allows_eq_of_same_elements same) gate
    · intro more gate flags derived
      exact exists_flags_sublist registry (allows_mono more) derived
  · intro observer gate names some_known ordinary found
    have kept : observer.flags gate =
        .ok (names.filter (decide <| · ∈ observer.knownFeatures)).flags := by
      rw [flags_of_registry ordinary, found, allows_of_ne_nil some_known]
    refine ⟨?_, ?_, kept⟩
    · rw [flags_of_registry ordinary, allows_of_nil rfl, found]
      simp [FeatureNames.filter]
    · rw [kept, FeatureNames.flags_filter]
  · intro observer observer' gate gate' custom custom' same
    rw [flags_of_custom custom, flags_of_custom custom', same]
  · intro observer gate gate' ordinary same
    rw [flags_of_registry ordinary, flags_of_registry (same ▸ ordinary), same]

/-- Names that are repeated and stand in both halves of a set, in a registry that has an entry for
    the custom mode as well. -/
theorem flags_by_known_repeated :
    let names : FeatureNames := ⟨["A", "B", "A"], ["A", "C"]⟩
    let registry : Registry := Table.ofList [(.default, names), (.customNoUpgrade, ⟨["Z"], []⟩)]
    let observer : FlagsObserver := ⟨["A"], ["a"], registry⟩
    let observer' : FlagsObserver := ⟨["C", "A"], ["b"], registry⟩
    let gate : Gate := .cluster .default
    let chosen : Gate := .ofNames ⟨["X"], []⟩
    observer.registry = observer'.registry ∧ observer.knownFeatures ≠ [] ∧
      observer.knownFeatures ⊆ observer'.knownFeatures ∧
      observer.registry.get? gate.featureSet = some names ∧
      observer.flags gate = .ok ["A=true", "A=true", "A=false"] ∧
      (∃ flags', observer'.flags gate = .ok flags' ∧
        ["A=true", "A=true", "A=false"].Sublist flags') ∧
      chosen.featureSet = .customNoUpgrade ∧ observer.flags chosen = observer'.flags chosen := by
  intro names registry observer observer' gate chosen
  obtain ⟨pairs, exact_flags, custom, -⟩ := flags_by_known
  have inside : observer.knownFeatures ⊆ observer'.knownFeatures := by decide
  have found : observer.registry.get? gate.featureSet = some names := by decide
  have kept : observer.flags gate = .ok ["A=true", "A=true", "A=false"] :=
    (exact_flags observer gate names (by decide) (by decide) found).2.2
  have more := (pairs observer observer' rfl).2.1 (.inl ⟨by decide, inside⟩) gate _ kept
  exact ⟨rfl, by decide, inside, found, kept, more, rfl, custom _ _ chosen chosen rfl rfl rfl⟩

end FlagsObserver

end FeatureFlags
