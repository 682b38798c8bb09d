import FeatureFlags.Proofs.Observe
import FeatureFlags.Proofs.Settings.RoundTrip
import FeatureFlags.Proofs.Tree.Access

/-!
# Writes that fail

An observer writes its flags into a fresh tree, where nothing stands in the way, so that the one
write that can fail is that to the empty path. Only then is there a warning. Settings with an
empty path are never accepted; the observer that accepted settings describe does not warn, and
what it reports is at most a value that it could not read and a failure to derive its flags.
-/

namespace FeatureFlags

namespace Tree

/-- What reading at a path can fail with: a value that is of another kind. -/
theorem exists_mismatch_of_read {p : Path} {t : Tree} {error : TreeError}
    (nonempty : p ≠ []) (failed : t.read p = .error error) :
    ∃ place expected value, error = .mismatch place expected value := by
  rcases read_error_iff.1 ⟨error, failed⟩ with empty | ⟨q, w, obstacle⟩
  · exact absurd empty nonempty
  · rw [obstacle.read] at failed
    exact ⟨_, _, _, (Except.error.inj failed).symm⟩

theorem listError?_eq_some_iff {t : Tree} {p : Path} {error : TreeError} :
    t.listError? p = some error ↔ t.readList p = .error error := by
  rw [listError?]
  cases t.readList p <;> simp

theorem exists_mismatch_of_listError? {t : Tree} {p : Path} {error : TreeError}
    (nonempty : p ≠ []) (failed : t.listError? p = some error) :
    ∃ place expected value, error = .mismatch place expected value := by
  rcases readList_eq_error_iff.1 (listError?_eq_some_iff.1 failed) with
    read | ⟨w, found, noList, same⟩
  · exact exists_mismatch_of_read nonempty read
  · exact ⟨_, _, _, same⟩

/-- No read ends in an error of writing. -/
theorem listError?_ne_blocked (t : Tree) (p : Path) (path segment : String) :
    t.listError? p ≠ some (.blocked path segment) := by
  intro failed
  by_cases empty : p = []
  · rw [empty] at failed
    cases failed
  · obtain ⟨_, _, _, same⟩ := exists_mismatch_of_listError? empty failed
    cases same

theorem listError?_eq_emptyPath_iff {t : Tree} {p : Path} :
    t.listError? p = some .emptyPath ↔ p = [] := by
  constructor
  · intro failed
    by_contra nonempty
    obtain ⟨_, _, _, same⟩ := exists_mismatch_of_listError? nonempty failed
    cases same
  · rintro rfl
    rfl

end Tree

namespace FlagsObserver

variable (observer : FlagsObserver) (lister : Lister) (existing : Tree)

theorem errors_observe :
    (observer.observe lister existing).1.errors =
      (existing.listError? observer.path).toList.map .tree ++
        match observer.derive lister with
        | .error failure => [failure]
        | .ok _ => if observer.path = [] then [.tree .emptyPath] else [] := by
  cases derived : observer.derive lister with
  | error failure => rw [observe_of_derive_error derived]
  | ok flags => rw [observe_of_derive derived]

/-- Every error of the tree that is reported is that of reading, even the one of a write that
    failed. -/
theorem tree_mem_errors_iff {error : TreeError} :
    .tree error ∈ (observer.observe lister existing).1.errors ↔
      existing.listError? observer.path = some error := by
  rw [errors_observe, List.mem_append]
  constructor
  · rintro (read | later)
    · simpa using read
    · split at later
      · next failure derived =>
        have other := (derive_eq_error_iff.1 derived).ne_tree error
        exact absurd (List.mem_singleton.1 later).symm other
      · split at later
        · next empty =>
          cases List.mem_singleton.1 later
          exact Tree.listError?_eq_emptyPath_iff.2 empty
        · cases later
  · intro read
    left
    simp [read]

theorem length_errors_le : (observer.observe lister existing).1.errors.length ≤ 2 := by
  have reading : (existing.listError? observer.path).toList.length ≤ 1 :=
    Option.length_toList_le
  rw [errors_observe, List.length_append, List.length_map]
  split
  · rw [List.length_singleton]
    omega
  · split
    · rw [List.length_singleton]
      omega
    · rw [List.length_nil]
      omega

/-- The warnings that are recorded. -/
def warnings : List Event :=
  ((observer.observe lister existing).2.notices.map Notice.event).filter (·.kind = .warning)

/-- With a path there is nothing to warn of. -/
theorem warnings_eq_nil (nonempty : observer.path ≠ []) :
    observer.warnings lister existing = [] := by
  rw [warnings, notices_observe nonempty]
  split
  · split <;> simp [Notice.event]
  · rfl

theorem event_flagsUpdated_kind (path : Path) (flags : List String) :
    (Notice.flagsUpdated path flags).event.kind = .normal := rfl

theorem event_flagsNotWritten_nil : (Notice.flagsNotWritten [] .emptyPath).event =
    ⟨.warning, "ObserveFeatureFlags",
      "Failed setting : cannot set a value at an empty path"⟩ := by
  decide +kernel

/-- Flags that are derived for the empty path are warned of once, and nothing is written. -/
theorem warnings_of_derive (empty : observer.path = []) {flags : List String}
    (derived : observer.derive lister = .ok flags) :
    observer.warnings lister existing =
      [⟨.warning, "ObserveFeatureFlags",
        "Failed setting : cannot set a value at an empty path"⟩] ∧
    (observer.observe lister existing).1.config = ∅ := by
  simp only [warnings, observe_of_derive derived, empty, if_true]
  refine ⟨?_, rfl⟩
  rw [List.map_append, List.filter_append, List.map_singleton, event_flagsNotWritten_nil]
  split <;> simp [event_flagsUpdated_kind]

theorem warnings_of_derive_error {failure : ObserveError}
    (failed : observer.derive lister = .error failure) :
    observer.warnings lister existing = [] := by
  rw [warnings, observe_of_derive_error failed]
  rfl

/-- There is a warning exactly if flags are derived for the empty path. -/
theorem warnings_ne_nil_iff : observer.warnings lister existing ≠ [] ↔
    observer.path = [] ∧ ∃ flags, observer.derive lister = .ok flags := by
  by_cases empty : observer.path = []
  · cases derived : observer.derive lister with
    | error failure => simp [warnings_of_derive_error _ _ _ derived]
    | ok flags => simp [(warnings_of_derive _ _ existing empty derived).1, empty]
  · simp [warnings_eq_nil _ _ _ empty, empty]

end FlagsObserver

namespace Settings

theorem path_observer_ne_nil {settings : Settings} (accepted : settings.Accepted) :
    settings.observer.path ≠ [] :=
  (fault?_eq_none_iff.1 (accepted_iff.1 accepted)).1

end Settings

namespace FlagsObserver

/-- A blocked write is never reported, and one to an empty path exactly if the path is empty. A
    warning is recorded exactly if the path is empty and the lookup and the derivation succeed; then
    there is one, and nothing is written. So with accepted settings there is no warning, no write
    fails, and at most two errors are reported, whatever the tree was before and whatever lookups
    answer. -/
theorem observe_write_errors (observer : FlagsObserver) (lister : Lister) (existing : Tree) :
    let observation := (observer.observe lister existing).1
    let warnings := observer.warnings lister existing
    (∀ path segment, .tree (.blocked path segment) ∉ observation.errors) ∧
    (.tree .emptyPath ∈ observation.errors ↔ observer.path = []) ∧
    (warnings ≠ [] ↔ observer.path = [] ∧
      ∃ gate flags, lister Gate.clusterName = .ok gate ∧
        observer.flags (gate.getD (.cluster .default)) = .ok flags) ∧
    (warnings ≠ [] → warnings.length = 1 ∧ observation.config = ∅) ∧
    ∀ settings : Settings, settings.Accepted → settings.observer = observer →
      warnings = [] ∧
      (∀ error, .tree error ∈ observation.errors →
        (∀ path segment, error ≠ .blocked path segment) ∧ error ≠ .emptyPath) ∧
      (∀ list, (observer.fragment list).error = none) ∧
      observation.errors.length ≤ 2 := by
  intro observation warnings
  have warned : warnings ≠ [] ↔ observer.path = [] ∧ ∃ flags, observer.derive lister = .ok flags :=
    warnings_ne_nil_iff observer lister existing
  have unblocked (path segment : String) :
      ObserveError.tree (.blocked path segment) ∉ observation.errors := by
    rw [tree_mem_errors_iff]
    exact existing.listError?_ne_blocked observer.path path segment
  have at_root : ObserveError.tree .emptyPath ∈ observation.errors ↔ observer.path = [] := by
    rw [tree_mem_errors_iff, Tree.listError?_eq_emptyPath_iff]
  refine ⟨unblocked, at_root, ?_, fun present => ?_, ?_⟩
  · rw [warned]
    simp only [derive_eq_ok_iff]
    rw [exists_comm]
  · obtain ⟨empty, flags, derived⟩ := warned.1 present
    obtain ⟨single, nothing⟩ := warnings_of_derive observer lister existing empty derived
    exact ⟨congrArg List.length single, nothing⟩
  · rintro settings accepted rfl
    have nonempty := settings.path_observer_ne_nil accepted
    refine ⟨warnings_eq_nil _ _ _ nonempty, fun error member => ⟨?_, ?_⟩, fun list => ?_,
      length_errors_le _ _ _⟩
    · rintro path segment rfl
      exact unblocked path segment member
    · rintro rfl
      exact nonempty (at_root.1 member)
    · rw [fragment_eq, if_neg nonempty]

/-- The empty path with flags derived for it, and accepted settings whose path is barred by a
    number, with no lookup answered. -/
theorem observe_write_errors_barred :
    let root : FlagsObserver := ⟨[], [], Table.ofList [(.default, ⟨["A"], []⟩)]⟩
    let absent : Lister := fun _ => .ok none
    let settings : Settings := ⟨["A"], ["a", "b"], 60⟩
    let down : Lister := fun _ => .error .notSynced
    let barred := Tree.ofList [("a", .number (.int 1))]
    root.warnings absent ∅ ≠ [] ∧ (root.observe absent ∅).1.config = ∅ ∧
      settings.Accepted ∧
      (settings.observer.observe down barred).1.errors =
        [.tree (.wrongType "a" "map" "1" .number), .lookup "cluster" .notSynced] ∧
      settings.observer.warnings down barred = [] := by
  intro root absent settings down barred
  have derived : root.flags (.cluster .default) = .ok ["A=true"] := rfl
  have accepted : settings.Accepted := Settings.accepted_iff.2 (by decide)
  obtain ⟨-, -, warned, once, -⟩ := observe_write_errors root absent ∅
  obtain ⟨-, -, -, -, quiet⟩ := observe_write_errors settings.observer down barred
  have present := warned.2 ⟨rfl, none, _, rfl, derived⟩
  exact ⟨present, (once present).2, accepted, by decide +kernel, (quiet settings accepted rfl).1⟩

end FlagsObserver

end FeatureFlags
