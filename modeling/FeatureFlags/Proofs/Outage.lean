import FeatureFlags.Proofs.Sync
import Mathlib.Data.List.Basic

/-!
# Outages

When no observer can derive its flags, each gives back what it reads, and a tree of lists at
the observers' own paths is put together again from what is read of it. Such is every tree
that a sync has published, also where the paths overlap, so that an outage after the first
sync changes nothing.
-/

namespace FeatureFlags

namespace FlagsObserver

/-- A tree of lists, each at the path of an observer. -/
structure Published (observers : List FlagsObserver) (t : Tree) : Prop where
  onlyLists : t.OnlyLists
  managed : ∀ q list, t.listAt q = some list → ∃ observer ∈ observers, observer.path = q

theorem published_publish (observers : List FlagsObserver) (lister : Lister) (existing : Tree) :
    Published observers (publish observers lister existing) where
  onlyLists := onlyLists_publish observers lister existing
  managed q list read := by
    obtain ⟨before, observer, after, rfl, same, -⟩ := exists_of_listAt_publish read
    exact ⟨observer, by simp, same⟩

/-- From the first sync of a run on the tree is a published one. -/
theorem published_after (observers : List FlagsObserver) (initial : Tree) {listers : List Lister}
    (synced : listers ≠ []) :
    Published observers ((Controller.ofFlags observers initial).after listers).observed := by
  rw [Controller.after_ofFlags, ← List.dropLast_concat_getLast synced, List.foldl_append]
  exact published_publish observers _ _

/-- Giving back what is read puts a published tree together again. -/
theorem publish_of_outage {observers : List FlagsObserver} {down : Lister} {t : Tree}
    (published : Published observers t) (outage : ∀ observer ∈ observers, ¬ observer.Derives down) :
    publish observers down t = t := by
  apply Tree.ext_listAt (onlyLists_publish observers down t) published.onlyLists
  intro q
  cases read : t.listAt q with
  | some list =>
    obtain ⟨observer, member, rfl⟩ := published.managed q list read
    obtain ⟨before, after, rfl⟩ := List.append_of_mem member
    apply listAt_publish_of_kept rfl read
    · rw [offer_list_of_not_derives (outage observer member), read]
    · intro later there derives
      exact absurd derives (outage later (by simp [there]))
  | none =>
    cases back : (publish observers down t).listAt q with
    | none => rfl
    | some list =>
      obtain ⟨before, observer, after, rfl, rfl, offered, -⟩ := exists_of_listAt_publish back
      rw [offer_list_of_not_derives (outage observer (by simp)), read] at offered
      cases offered

/-- A sync at which no observer can derive its flags, after at least one sync of whatever
    outcome: nothing changes and nothing is announced, and the report has, for one observer
    after the other, the error of reading its list, if there is one, and the failure. -/
theorem sync_of_outage (observers : List FlagsObserver) (initial : Tree) {listers : List Lister}
    (synced : listers ≠ []) {down : Lister}
    (outage : ∀ observer ∈ observers, ∃ failure, observer.Fails down failure) :
    let running := (Controller.ofFlags observers initial).after listers
    (running.sync down).report.changed = false ∧
    (running.sync down).controller = running ∧
    (running.sync down).trace.notices = [] ∧
    ∃ failure : FlagsObserver → ObserveError,
      (∀ observer ∈ observers, observer.Fails down (failure observer) ∧
        ∀ error, failure observer ≠ .tree error) ∧
      (running.sync down).report.errors = observers.flatMap fun observer =>
        (running.observed.listError? observer.path).toList.map .tree ++ [failure observer] := by
  intro running
  obtain ⟨t, at_t⟩ : ∃ t, running = Controller.ofFlags observers t :=
    ⟨_, Controller.after_ofFlags observers initial listers⟩
  have published : Published observers t := by
    have := published_after observers initial synced
    rwa [show (Controller.ofFlags observers initial).after listers = running from rfl, at_t] at this
  have still : publish observers down t = t :=
    publish_of_outage published fun observer member => not_derives_iff.2 (outage observer member)
  have failing : ∀ observer, ∃ failure, observer ∈ observers → observer.Fails down failure := by
    intro observer
    by_cases member : observer ∈ observers
    · obtain ⟨failure, fails⟩ := outage observer member
      exact ⟨failure, fun _ => fails⟩
    · exact ⟨default, fun there => absurd there member⟩
  choose failure fails using failing
  have underived : ∀ observer ∈ observers, observer.derive down = .error (failure observer) :=
    fun observer member => derive_eq_error_iff.2 (fails observer member)
  rw [at_t]
  refine ⟨?_, ?_, ?_, ?_⟩
  · rw [Controller.changed_sync, still]
  · rw [Controller.controller_sync, still]
  · rw [(Controller.sync_ofFlags observers t down).2.2, if_pos still.symm, List.append_nil,
      List.flatMap_eq_nil_iff]
    intro observer member
    rw [observe_of_derive_error (underived observer member)]
  · refine ⟨failure, fun observer member => ?_, ?_⟩
    · exact ⟨fails observer member, (fails observer member).ne_tree⟩
    · rw [Controller.errors_sync]
      apply List.flatMap_congr
      intro observer member
      rw [observe_of_derive_error (underived observer member)]
      rfl

/-- Paths one above the other, and an empty one. The first sync leaves the list that the
    second observer kept, and an outage afterwards leaves it too. -/
theorem sync_of_outage_overlapping :
    let registry : Registry := Table.ofList [(.default, ⟨["A"], []⟩)]
    let observers : List FlagsObserver :=
      [⟨[], ["a", "x"], registry⟩, ⟨[], ["a"], ∅⟩, ⟨[], [], registry⟩]
    let initial := Tree.only ["a"] (.ofStrings ["Kept=true"])
    let listers : List Lister := [fun _ => .ok none]
    let down : Lister := fun _ => .error .notSynced
    let running := (Controller.ofFlags observers initial).after listers
    listers ≠ [] ∧ (∀ observer ∈ observers, ∃ failure, observer.Fails down failure) ∧
      running.observed = initial ∧ (running.sync down).report.changed = false ∧
      (running.sync down).controller = running ∧ (running.sync down).trace.notices = [] := by
  intro registry observers initial listers down
  have synced : listers ≠ [] := by simp [listers]
  have outage : ∀ observer ∈ observers, ∃ failure, observer.Fails down failure :=
    fun observer _ => ⟨_, .lookup rfl⟩
  obtain ⟨unchanged, same, quiet, -⟩ := sync_of_outage observers initial synced outage
  exact ⟨synced, outage, by rfl, unchanged, same, quiet⟩

end FlagsObserver

end FeatureFlags
