import FeatureFlags.Proofs.Observe

/-!
# Names and their flags

A flag is a name with one of two endings, neither of which is an ending of the other. So the flags
of enabled and disabled names can be told apart whatever the names are, and determine both lists
(`FeatureNames.flags_inj`). In the custom mode an observer therefore announces an update exactly if
other names are selected than those before (`FlagsObserver.updated_iff_names_ne`).
-/

namespace FeatureFlags

variable {name name' : String}

@[simp] theorem enabledFlag_inj : enabledFlag name = enabledFlag name' ↔ name = name' := by
  simp [enabledFlag, ← String.toList_inj]

@[simp] theorem disabledFlag_inj : disabledFlag name = disabledFlag name' ↔ name = name' := by
  simp [disabledFlag, ← String.toList_inj]

@[simp] theorem enabledFlag_ne_disabledFlag : enabledFlag name ≠ disabledFlag name' := by
  intro same
  have ends := congrArg (fun flag : String => flag.toList.reverse[1]?) same
  simp [enabledFlag, disabledFlag] at ends

@[simp] theorem disabledFlag_ne_enabledFlag : disabledFlag name ≠ enabledFlag name' :=
  enabledFlag_ne_disabledFlag.symm

namespace FeatureNames

/-- Where the flags of enabled names end and those of disabled ones begin can be seen from the
    flags. -/
theorem eq_of_flags_eq {enabled enabled' disabled disabled' : List String}
    (same : (mk enabled disabled).flags = (mk enabled' disabled').flags) :
    enabled = enabled' ∧ disabled = disabled' := by
  unfold flags at same
  induction enabled generalizing enabled' with
  | nil =>
    cases enabled' with
    | nil => exact ⟨rfl, (List.map_inj_right fun _ _ => disabledFlag_inj.1).1 same⟩
    | cons name' rest' => cases disabled <;> simp at same
  | cons name rest ih =>
    cases enabled' with
    | nil => cases disabled' <;> simp at same
    | cons name' rest' =>
      simp only [List.map_cons, List.cons_append, List.cons.injEq, enabledFlag_inj] at same
      obtain ⟨rfl, later⟩ := same
      obtain ⟨rfl, rfl⟩ := ih later
      exact ⟨rfl, rfl⟩

/-- The flags determine the names, their order and their repetitions. -/
theorem flags_inj {names names' : FeatureNames} : names.flags = names'.flags ↔ names = names' := by
  constructor
  · intro same
    obtain ⟨enabled, disabled⟩ := eq_of_flags_eq same
    cases names
    cases names'
    rw [mk.injEq]
    exact ⟨enabled, disabled⟩
  · intro same
    rw [same]

end FeatureNames

/-- The lister finds a gate of the cluster that selects the custom mode and lists these names. -/
def Lister.Selects (lister : Lister) (names : FeatureNames) : Prop :=
  ∃ gate, lister Gate.clusterName = .ok (some gate) ∧ gate.featureSet = .customNoUpgrade ∧
    gate.custom = some names

namespace FlagsObserver

variable {observer : FlagsObserver} {lister lister' : Lister} {names names' : FeatureNames}

/-- In the custom mode the flags are those of the names on the gate. -/
theorem flags_of_custom {gate : Gate} (custom : gate.featureSet = .customNoUpgrade) :
    observer.flags gate =
      match gate.custom with
      | some names => .ok names.flags
      | none => .error (.missingCustomSelection .customNoUpgrade) := by
  rw [flags, custom]
  rfl

theorem derive_of_selects (selects : Lister.Selects lister names) :
    observer.derive lister = .ok names.flags := by
  obtain ⟨gate, answered, custom, listed⟩ := selects
  apply derive_eq_ok_iff.2
  refine ⟨some gate, answered, ?_⟩
  rw [Option.getD_some, flags_of_custom custom, listed]

/-- The flags derived are read from what the observer returns. -/
theorem listAt_observe (nonempty : observer.path ≠ []) {flags : List String}
    (derived : observer.derive lister = .ok flags) (existing : Tree) :
    (observer.observe lister existing).1.config.listAt observer.path = some flags := by
  rw [observe_of_derive derived]
  exact Tree.listAt_only nonempty flags

/-- An observer that finds other names selected than before announces one update, and one that
    finds the same names announces nothing. -/
theorem notices_observe_again (nonempty : observer.path ≠ [])
    (before : Lister.Selects lister names) (now : Lister.Selects lister' names')
    (existing : Tree) :
    (observer.observe lister' (observer.observe lister existing).1.config).2.notices =
      if names = names' then [] else [.flagsUpdated observer.path names'.flags] := by
  have written := listAt_observe nonempty (derive_of_selects before) existing
  rw [notices_observe nonempty, derive_of_selects now, currentFlags_eq, written]
  simp only [Option.getD_some, FeatureNames.flags_inj]

/-- Flags lose nothing of the names they are made of, whatever these are: names that hold the
    signs of a flag, or are flags themselves, are told apart like others. So an observer with a
    path, put on the tree that it returned for one selection of names, announces an update for
    another selection exactly if the two differ, and leaves the list that it wrote exactly if
    they do not. -/
theorem updated_iff_names_ne :
    (∀ names names' : FeatureNames, names.flags = names'.flags → names = names') ∧
    ∀ (observer : FlagsObserver) (lister lister' : Lister) (names names' : FeatureNames)
      (existing : Tree), observer.path ≠ [] →
      Lister.Selects lister names → Lister.Selects lister' names' →
      let before := (observer.observe lister existing).1.config
      let again := observer.observe lister' before
      before.readList observer.path = .ok (some names.flags) ∧
      again.1.config.readList observer.path = .ok (some names'.flags) ∧
      ((∃ event ∈ again.2.notices.map Notice.event, event.reason = "ObserveFeatureFlagsUpdated") ↔
        names ≠ names') ∧
      (again.1.config.readList observer.path = before.readList observer.path ↔
        names = names') := by
  refine ⟨fun names names' => FeatureNames.flags_inj.1, ?_⟩
  intro observer lister lister' names names' existing nonempty selects selects' before again
  have written : before.readList observer.path = .ok (some names.flags) :=
    Tree.listAt_eq_some_iff.1 (listAt_observe nonempty (derive_of_selects selects) existing)
  have rewritten : again.1.config.readList observer.path = .ok (some names'.flags) :=
    Tree.listAt_eq_some_iff.1 (listAt_observe nonempty (derive_of_selects selects') before)
  refine ⟨written, rewritten, ?_, ?_⟩
  · rw [notices_observe_again nonempty selects selects']
    split
    · next same => simp [same]
    · next differ => simp [differ, Notice.event]
  · rw [written, rewritten, Except.ok.injEq, Option.some.injEq, FeatureNames.flags_inj, eq_comm]

/-- A name that is the flag of the name selected next. -/
theorem updated_iff_names_ne_imitation :
    let observer : FlagsObserver := ⟨["A"], ["apiServerArguments", "feature-gates"], ∅⟩
    let names : FeatureNames := ⟨["A=true"], ["B"]⟩
    let names' : FeatureNames := ⟨["A"], ["B"]⟩
    let lister : Lister := fun _ => .ok (some (Gate.ofNames names))
    let lister' : Lister := fun _ => .ok (some (Gate.ofNames names'))
    let before := (observer.observe lister ∅).1.config
    observer.path ≠ [] ∧ Lister.Selects lister names ∧ Lister.Selects lister' names' ∧
      ∃ event ∈ (observer.observe lister' before).2.notices.map Notice.event,
        event.reason = "ObserveFeatureFlagsUpdated" := by
  intro observer names names' lister lister' before
  have nonempty : observer.path ≠ [] := by decide
  have selects : Lister.Selects lister names := ⟨Gate.ofNames names, rfl, rfl, rfl⟩
  have selects' : Lister.Selects lister' names' := ⟨Gate.ofNames names', rfl, rfl, rfl⟩
  have told :=
    updated_iff_names_ne.2 observer lister lister' names names' ∅ nonempty selects selects'
  exact ⟨nonempty, selects, selects', told.2.2.1.2 (by decide)⟩

end FlagsObserver

end FeatureFlags
