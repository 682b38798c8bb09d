import FeatureFlags.Proofs.Sync

/-!
# The order of registration

The order in which observers are registered decides which of two lists at overlapping paths
is seen. Observers of paths apart have nothing to decide: registered in another order they
publish the same trees, sync by sync, and report and announce the same in that other order.
-/

namespace FeatureFlags

namespace FlagsObserver

variable {observers observers' : List FlagsObserver}

/-- At every sync of a run the observers in another order leave the same tree and agree on
    whether it is a new one. Each has the same errors as before, one observer after the other in
    the order there is, and the updates announced are the same up to their order. -/
theorem sync_of_perm (order : observers.Perm observers')
    (nonempty : ∀ observer ∈ observers, observer.path ≠ [])
    (apart : (observers.map (·.path)).Pairwise Path.Apart) (initial : Tree)
    (listers : List Lister) (lister : Lister) :
    let running := (Controller.ofFlags observers initial).after listers
    let running' := (Controller.ofFlags observers' initial).after listers
    let errors := fun observer : FlagsObserver =>
      (observer.observe lister running.observed).1.errors
    let updates := fun sync : Sync =>
      sync.trace.notices.filter (·.event.reason = "ObserveFeatureFlagsUpdated")
    (running'.sync lister).controller.observed = (running.sync lister).controller.observed ∧
    (running'.sync lister).report.changed = (running.sync lister).report.changed ∧
    (running.sync lister).report.errors = observers.flatMap errors ∧
    (running'.sync lister).report.errors = observers'.flatMap errors ∧
    (updates (running'.sync lister)).Perm (updates (running.sync lister)) := by
  have same : publish observers' = publish observers := (publish_perm nonempty apart order).symm
  intro running running' errors updates
  -- Both controllers have come to the same tree, and sync over it.
  obtain ⟨t, at_t, at_t'⟩ : ∃ t, running = Controller.ofFlags observers t ∧
      running' = Controller.ofFlags observers' t :=
    ⟨_, Controller.after_ofFlags observers initial listers, by
      rw [← same]
      exact Controller.after_ofFlags observers' initial listers⟩
  obtain ⟨left, reported, announced⟩ := Controller.sync_ofFlags observers t lister
  obtain ⟨left', reported', announced'⟩ := Controller.sync_ofFlags observers' t lister
  have tree : running.observed = t := by rw [at_t]; rfl
  simp only [errors, updates, tree]
  rw [at_t, at_t', left, left', reported, reported', announced, announced', same]
  refine ⟨rfl, rfl, rfl, rfl, ?_⟩
  exact ((order.symm.flatMap_right _).append_right _).filter _

/-- Three observers, two of them with a parent map in common. The first and the last cannot
    derive their flags; the one reads a malformed value and the other keeps its list. Registered
    the other way round they publish the same, and the errors of the last one come first. -/
theorem sync_of_perm_reversed :
    let observers : List FlagsObserver := [⟨[], ["a", "x"], ∅⟩,
      ⟨[], ["a", "y"], Table.ofList [(.default, ⟨["A"], ["B"]⟩)]⟩, ⟨[], ["b"], ∅⟩]
    let initial := Tree.ofList
      [("a", .ofMembers [("x", .bool true), ("z", .null)]), ("b", .ofStrings ["Kept=true"])]
    let lister : Lister := fun _ => .ok none
    let forward := (Controller.ofFlags observers initial).sync lister
    let backward := (Controller.ofFlags observers.reverse initial).sync lister
    observers.Perm observers.reverse ∧ (∀ observer ∈ observers, observer.path ≠ []) ∧
      (observers.map (·.path)).Pairwise Path.Apart ∧
      forward.controller.observed = Tree.ofList
        [("a", .ofMembers [("y", .ofStrings ["A=true", "B=false"])]),
          ("b", .ofStrings ["Kept=true"])] ∧
      backward.controller.observed = forward.controller.observed ∧
      backward.report.changed = forward.report.changed ∧
      backward.report.errors = [.unknownFeatureSet "Default",
        .tree (.wrongType "a.x" "[]string" "true" .bool), .unknownFeatureSet "Default"] := by
  intro observers initial lister forward backward
  have order : observers.Perm observers.reverse := (List.reverse_perm observers).symm
  have nonempty : ∀ observer ∈ observers, observer.path ≠ [] := by simp [observers]
  have apart : (observers.map (·.path)).Pairwise Path.Apart := by decide
  obtain ⟨tree, changed, -, errors, -⟩ := sync_of_perm order nonempty apart initial [] lister
  exact ⟨order, nonempty, apart, by decide +kernel, tree, changed,
    errors.trans (by decide +kernel)⟩

end FlagsObserver

end FeatureFlags
