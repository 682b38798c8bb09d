import FeatureFlags.Observer
import FeatureFlags.Proofs.Tree.Stack

/-!
# What an observer returns

An observer of flags offers one list for its path: the flags derived, or else the list that
could be read there before. Its fragment holds that offer and nothing else. A failed lookup
or derivation therefore takes nothing away.
-/

namespace FeatureFlags

/-- The error that stands in the way of reading a list at a path. -/
def Tree.listError? (t : Tree) (path : Path) : Option TreeError :=
  match t.readList path with
  | .ok _ => none
  | .error error => some error

namespace FlagsObserver

/-- The lookup fails, or no flags can be derived from the gate. A cluster without a gate
    counts as one with the default set. -/
inductive Fails (observer : FlagsObserver) (lister : Lister) : ObserveError → Prop
  | lookup {cause : ListerError} (unanswered : lister Gate.clusterName = .error cause) :
      Fails observer lister (.lookup Gate.clusterName cause)
  | found {gate : Gate} {error : ObserveError}
      (answered : lister Gate.clusterName = .ok (some gate))
      (underivable : observer.flags gate = .error error) : Fails observer lister error
  | absent {error : ObserveError} (answered : lister Gate.clusterName = .ok none)
      (underivable : observer.flags (.cluster .default) = .error error) :
      Fails observer lister error

/-- What the observer offers: the flags derived, or the list there was. -/
def offer (observer : FlagsObserver) (lister : Lister) (existing : Tree) : Offer where
  path := observer.path
  list :=
    match observer.derive lister with
    | .ok flags => some flags
    | .error _ => existing.listAt observer.path

variable {observer : FlagsObserver} {lister : Lister} {failure : ObserveError}

theorem derive_eq_error_iff : observer.derive lister = .error failure ↔
    observer.Fails lister failure := by
  constructor
  · intro h
    rw [derive] at h
    split at h
    · next cause unanswered =>
      cases h
      exact .lookup unanswered
    · next gate answered =>
      cases gate with
      | none => exact .absent answered h
      | some gate => exact .found answered h
  · rintro (unanswered | ⟨answered, underivable⟩ | ⟨answered, underivable⟩)
    · simp [derive, unanswered]
    · simpa [derive, answered] using underivable
    · simpa [derive, answered] using underivable

/-- Flags are derived if the lookup and the derivation succeed. -/
theorem derive_eq_ok_iff {flags : List String} : observer.derive lister = .ok flags ↔
    ∃ gate, lister Gate.clusterName = .ok gate ∧
      observer.flags (gate.getD (.cluster .default)) = .ok flags := by
  rw [derive]
  cases lister Gate.clusterName <;> simp

/-- A failure is one of the lookup or of the derivation, never one of the tree. -/
theorem Fails.ne_tree (fails : observer.Fails lister failure) (error : TreeError) :
    failure ≠ .tree error := by
  have underived (gate : Gate) : observer.flags gate ≠ .error (.tree error) := by
    rw [flags]
    split
    · split <;> simp
    · split <;> simp
  rintro rfl
  cases fails with
  | found _ underivable => exact underived _ underivable
  | absent _ underivable => exact underived _ underivable

@[simp] theorem offer_path (existing : Tree) :
    (observer.offer lister existing).path = observer.path := rfl

theorem listAt_offer_self (observer : FlagsObserver) (lister : Lister) (existing : Tree) :
    (observer.offer lister existing).listAt observer.path =
      (observer.offer lister existing).list :=
  Offer.listAt_self _

theorem listAt_offer_of_ne {q : Path} (h : observer.path ≠ q) (existing : Tree) :
    (observer.offer lister existing).listAt q = none :=
  Offer.listAt_of_ne h

theorem offer_list_of_derive {flags : List String} (derived : observer.derive lister = .ok flags)
    (existing : Tree) : (observer.offer lister existing).list = some flags := by
  simp [offer, derived]

theorem offer_list_of_fails (fails : observer.Fails lister failure) (existing : Tree) :
    (observer.offer lister existing).list = existing.listAt observer.path := by
  simp [offer, derive_eq_error_iff.2 fails]

/-- Putting flags into a fresh tree fails at an empty path alone. -/
theorem fragment_eq (observer : FlagsObserver) (flags : List String) :
    observer.fragment flags =
      ⟨Tree.only observer.path (.ofStrings flags),
        if observer.path = [] then some .emptyPath else none⟩ := by
  rw [fragment, Tree.writeList]
  by_cases empty : observer.path = []
  · rw [empty]
    rfl
  · rw [Tree.write_empty empty, if_neg empty]

theorem previous_eq (observer : FlagsObserver) (existing : Tree) :
    observer.previous existing =
      ⟨(Offer.mk observer.path (existing.listAt observer.path)).fragment,
        (existing.listError? observer.path).toList.map .tree⟩ := by
  rw [previous, current, Tree.listError?, Tree.listAt]
  cases read : existing.readList observer.path with
  | error error => rfl
  | ok found =>
    cases found with
    | none => rfl
    | some list =>
      have nonempty := Tree.ne_nil_of_listAt (Tree.listAt_eq_some_iff.2 read)
      simp [fragment_eq, nonempty, Offer.fragment]

theorem observe_of_derive {flags : List String} (derived : observer.derive lister = .ok flags)
    (existing : Tree) :
    observer.observe lister existing =
      (⟨Tree.only observer.path (.ofStrings flags),
        (existing.listError? observer.path).toList.map .tree ++
          if observer.path = [] then [.tree .emptyPath] else []⟩,
        { notices :=
            (if observer.currentFlags existing = flags then []
              else [.flagsUpdated observer.path flags]) ++
              if observer.path = [] then [.flagsNotWritten observer.path .emptyPath] else [],
          log := observer.log lister existing, lookups := 1 }) := by
  simp only [observe, derived, previous_eq, fragment_eq]
  split <;> rfl

theorem observe_of_derive_error (failed : observer.derive lister = .error failure)
    (existing : Tree) :
    observer.observe lister existing =
      (⟨(observer.offer lister existing).fragment,
        (existing.listError? observer.path).toList.map .tree ++ [failure]⟩,
        { log := observer.log lister existing, lookups := 1 }) := by
  rw [observe, offer, failed, previous_eq]

theorem currentFlags_eq (observer : FlagsObserver) (existing : Tree) :
    observer.currentFlags existing = (existing.listAt observer.path).getD [] := by
  rw [currentFlags, current, Tree.listAt]
  cases existing.readList observer.path with
  | error error => rfl
  | ok found => cases found <;> rfl

/-- All that an observer with a path announces is that its flags are other ones now. -/
theorem notices_observe (nonempty : observer.path ≠ []) (lister : Lister) (existing : Tree) :
    (observer.observe lister existing).2.notices =
      match observer.derive lister with
      | .ok flags =>
        if observer.currentFlags existing = flags then [] else [.flagsUpdated observer.path flags]
      | .error _ => [] := by
  cases derived : observer.derive lister with
  | error failure => rw [observe_of_derive_error derived]
  | ok flags => simp [observe_of_derive derived, nonempty]

/-- The fragment of an observer is its offer. -/
theorem observe_config (observer : FlagsObserver) (lister : Lister) (existing : Tree) :
    (observer.observe lister existing).1.config = (observer.offer lister existing).fragment := by
  cases derived : observer.derive lister with
  | error failure => rw [observe_of_derive_error derived]
  | ok flags =>
    rw [observe_of_derive derived, Offer.fragment, offer_list_of_derive derived, offer_path]

/-- A failed lookup or derivation announces nothing and gives back the list that could be
    read before and nothing else, to be read at the same path. The errors are that of
    reading, if there was one, and the failure. -/
theorem observe_of_fails (fails : observer.Fails lister failure) (existing : Tree) :
    (observer.observe lister existing).2.notices = [] ∧
    (observer.observe lister existing).1.config =
      (match existing.readList observer.path with
        | .ok (some list) => Tree.only observer.path (.ofStrings list)
        | _ => ∅) ∧
    (observer.observe lister existing).1.errors =
      (match existing.readList observer.path with
        | .error error => [.tree error, failure]
        | .ok _ => [failure]) ∧
    ∀ list, existing.readList observer.path = .ok (some list) →
      (observer.observe lister existing).1.config.readList observer.path = .ok (some list) := by
  have kept : (observer.observe lister existing).1.config =
      (Offer.mk observer.path (existing.listAt observer.path)).fragment := by
    rw [observe_config, Offer.fragment, offer_list_of_fails fails, offer_path, Offer.fragment]
  rw [observe_of_derive_error (derive_eq_error_iff.2 fails)] at kept ⊢
  refine ⟨rfl, ?_, ?_, ?_⟩
  · rw [kept, Tree.listAt, Offer.fragment]
    cases existing.readList observer.path with
    | error error => rfl
    | ok found => cases found <;> rfl
  · rw [Tree.listError?]
    cases existing.readList observer.path <;> rfl
  · intro list read
    have there := Tree.listAt_eq_some_iff.2 read
    rw [kept, there, ← Tree.listAt_eq_some_iff]
    exact Tree.listAt_only (Tree.ne_nil_of_listAt there) list

/-- A cache that was never filled: the list at `a.b` stays, its sibling is not given back. -/
theorem observe_of_fails_notSynced :
    let observer : FlagsObserver := ⟨[], ["a", "b"], .builtin⟩
    let unsynced : Lister := ({} : Cache).get
    let existing := Tree.ofList
      [("a", .ofMembers [("b", .ofStrings ["A=true", "B=false"]), ("c", .null)])]
    observer.Fails unsynced (.lookup "cluster" .notSynced) ∧
      (observer.observe unsynced existing).2.notices = [] ∧
      (observer.observe unsynced existing).1 =
        ⟨Tree.only ["a", "b"] (.ofStrings ["A=true", "B=false"]),
          [.lookup "cluster" .notSynced]⟩ := by
  intro observer unsynced existing
  have fails : observer.Fails unsynced (.lookup "cluster" .notSynced) := .lookup rfl
  have read : existing.readList observer.path = .ok (some ["A=true", "B=false"]) := rfl
  obtain ⟨quiet, config, errors, -⟩ := observe_of_fails fails existing
  rw [read] at config errors
  refine ⟨fails, quiet, ?_⟩
  rw [Observation.mk.injEq]
  exact ⟨config, errors⟩

/-- Flags that can be derived stand alone in the fragment whatever the tree was before, to be
    read at the same path. The one error there can be is that of reading the list before, and
    the one event that the flags are not those of this list, a missing or malformed one being
    empty. -/
theorem observe_of_flags {gate : Option Gate} {flags : List String}
    (nonempty : observer.path ≠ []) (answered : lister Gate.clusterName = .ok gate)
    (derived : observer.flags (gate.getD (.cluster .default)) = .ok flags) (existing : Tree) :
    (observer.observe lister existing).1.config = Tree.only observer.path (.ofStrings flags) ∧
    (observer.observe lister existing).1.config.readList observer.path = .ok (some flags) ∧
    (observer.observe lister existing).1.errors =
      (match existing.readList observer.path with
        | .error error => [.tree error]
        | .ok _ => []) ∧
    (observer.observe lister existing).2.notices.map Notice.event =
      let before := match existing.readList observer.path with
        | .ok (some list) => list
        | _ => []
      if before = flags then []
      else [⟨.normal, "ObserveFeatureFlagsUpdated",
        "Updated " ++ observer.path.dotted ++ " to " ++ ",".intercalate flags⟩] := by
  have success : observer.derive lister = .ok flags := by simpa [derive, answered] using derived
  have announced := notices_observe nonempty lister existing
  simp only [success] at announced
  rw [announced, observe_of_derive success, if_neg nonempty, List.append_nil]
  refine ⟨rfl, ?_, ?_, ?_⟩
  · rw [← Tree.listAt_eq_some_iff]
    exact Tree.listAt_only nonempty flags
  · rw [Tree.listError?]
    cases existing.readList observer.path <;> rfl
  · rw [apply_ite (List.map Notice.event)]
    rfl

/-- A cluster without a gate, and text where the list should be: the text is reported and
    replaced, and neither it nor anything beside it is given back. -/
theorem observe_of_flags_malformed :
    let observer : FlagsObserver := ⟨["A", "B"], ["a", "b"],
      Table.ofList [(.default, ⟨["A", "C"], ["B"]⟩)]⟩
    let lister : Lister := (Cache.ofGates []).get
    let existing := Tree.ofList [("a", .ofMembers [("b", .string "A=true"), ("c", .null)])]
    observer.path ≠ [] ∧ lister Gate.clusterName = .ok none ∧
      observer.flags (.cluster .default) = .ok ["A=true", "B=false"] ∧
      (observer.observe lister existing).1.config = Tree.ofList
        [("a", .ofMembers [("b", .ofStrings ["A=true", "B=false"])])] ∧
      (observer.observe lister existing).1.errors =
        [.tree (.wrongType "a.b" "[]string" "\"A=true\"" .string)] ∧
      (observer.observe lister existing).2.notices.map Notice.event =
        [⟨.normal, "ObserveFeatureFlagsUpdated", "Updated a.b to A=true,B=false"⟩] := by
  intro observer lister existing
  have nonempty : observer.path ≠ [] := by simp [observer]
  have answered : lister Gate.clusterName = .ok none := rfl
  have derived : observer.flags (.cluster .default) = .ok ["A=true", "B=false"] := by
    decide +kernel
  have read : existing.readList observer.path =
      .error (.wrongType "a.b" "[]string" "\"A=true\"" .string) := by
    decide +kernel
  obtain ⟨config, -, errors, events⟩ := observe_of_flags nonempty answered derived existing
  rw [read] at errors events
  exact ⟨nonempty, answered, derived, config, errors, events⟩

end FlagsObserver

end FeatureFlags
