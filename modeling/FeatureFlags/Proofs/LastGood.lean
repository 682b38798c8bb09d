import FeatureFlags.Proofs.Sync

/-!
# The last good value

While a derivation fails, what was derived last stays in place. Over paths apart a run comes
to this for every observer by itself: each path holds the list derived there at the latest
sync that could derive one, or, before the first such sync, the list that the first tree had
there; and the tree holds nothing else.
-/

namespace FeatureFlags

namespace FlagsObserver

/-- The list of the latest sync of a run that derived one, or else the list of the first
    tree. -/
def lastGood (observer : FlagsObserver) (initial : Tree) (listers : List Lister) :
    Option (List String) :=
  (listers.reverse.findSome? fun lister => (observer.derive lister).toOption).or
    (initial.listAt observer.path)

/-- The last good lists as offers. -/
def goodOffers (observers : List FlagsObserver) (initial : Tree) (listers : List Lister) :
    List Offer :=
  observers.map fun observer => ⟨observer.path, observer.lastGood initial listers⟩

theorem lastGood_concat (observer : FlagsObserver) (initial : Tree) (listers : List Lister)
    (lister : Lister) :
    observer.lastGood initial (listers ++ [lister]) =
      match observer.derive lister with
      | .ok flags => some flags
      | .error _ => observer.lastGood initial listers := by
  rw [lastGood, List.reverse_append, List.reverse_singleton, List.singleton_append,
    List.findSome?_cons, lastGood]
  cases observer.derive lister <;> rfl

variable {observers : List FlagsObserver}

/-- Over a tree in which the last good lists are read, the last good lists are offered. -/
theorem publish_eq_stack {existing initial : Tree} {listers : List Lister}
    (reads : ∀ observer ∈ observers,
      existing.listAt observer.path = observer.lastGood initial listers) (lister : Lister) :
    publish observers lister existing =
      Tree.stack (goodOffers observers initial (listers ++ [lister])) := by
  rw [publish, goodOffers]
  congr 1
  apply List.map_congr_left
  intro observer member
  rw [lastGood_concat, ← reads observer member]
  rfl

theorem pairwise_goodOffers (apart : (observers.map (·.path)).Pairwise Path.Apart)
    (initial : Tree) (listers : List Lister) :
    (goodOffers observers initial listers).Pairwise fun a b => a.path.Apart b.path :=
  List.pairwise_map.2 (List.pairwise_map.1 apart)

/-- The invariant of a run: every observer reads its last good list, and from the first sync
    on there is nothing else in the tree. -/
theorem foldl_publish (nonempty : ∀ observer ∈ observers, observer.path ≠ [])
    (apart : (observers.map (·.path)).Pairwise Path.Apart) (initial : Tree)
    (listers : List Lister) :
    let published :=
      listers.foldl (fun existing lister => publish observers lister existing) initial
    (∀ observer ∈ observers,
      published.listAt observer.path = observer.lastGood initial listers) ∧
    (listers ≠ [] → published = Tree.stack (goodOffers observers initial listers)) := by
  induction listers using List.reverseRecOn with
  | nil => exact ⟨fun _ _ => rfl, fun synced => absurd rfl synced⟩
  | append_singleton listers lister ih =>
    simp only [List.foldl_append, List.foldl_cons, List.foldl_nil]
    rw [publish_eq_stack ih.1 lister]
    refine ⟨fun observer member => ?_, fun _ => rfl⟩
    have offered : (⟨observer.path, observer.lastGood initial (listers ++ [lister])⟩ : Offer) ∈
        goodOffers observers initial (listers ++ [lister]) := List.mem_map_of_mem member
    exact Tree.listAt_stack_of_pairwise (pairwise_goodOffers apart initial _) offered
      (nonempty observer member)

/-- After every sync the tree observed is the empty one with the last good lists written to
    it, and each of these writes succeeds. -/
theorem observed_after (nonempty : ∀ observer ∈ observers, observer.path ≠ [])
    (apart : (observers.map (·.path)).Pairwise Path.Apart) (initial : Tree)
    {listers : List Lister} (synced : listers ≠ []) :
    (∅ : Tree).writeLists (observers.filterMap fun observer =>
      (observer.lastGood initial listers).map fun list => (observer.path, list)) =
      ⟨((Controller.ofFlags observers initial).after listers).observed, none⟩ := by
  have written := Tree.writeLists_eq_stack (goodOffers observers initial listers)
    (pairwise_goodOffers apart initial listers) fun offer member => by
      obtain ⟨observer, there, rfl⟩ := List.mem_map.1 member
      exact nonempty observer there
  rw [goodOffers, List.filterMap_map] at written
  rw [Controller.after_ofFlags, Controller.ofFlags,
    (foldl_publish nonempty apart initial listers).2 synced]
  exact written

/-- Two observers with a parent map in common. The registry of the first lacks the default
    set, so it keeps what the first tree had; the second derives its flags once, and keeps
    them when the source is gone. -/
theorem observed_after_outage :
    let observers : List FlagsObserver :=
      [⟨[], ["a", "x"], ∅⟩, ⟨[], ["a", "y"], Table.ofList [(.default, ⟨["A"], ["B"]⟩)]⟩]
    let initial := Tree.ofList
      [("a", .ofMembers [("x", .ofStrings ["Kept=true"]), ("y", .bool true)]), ("z", .null)]
    let listers : List Lister :=
      [fun _ => .ok none, fun _ => .error (.unavailable "connection reset")]
    (∀ observer ∈ observers, observer.path ≠ []) ∧
      (observers.map (·.path)).Pairwise Path.Apart ∧
      ((Controller.ofFlags observers initial).after listers).observed = Tree.ofList
        [("a", .ofMembers
          [("x", .ofStrings ["Kept=true"]), ("y", .ofStrings ["A=true", "B=false"])])] := by
  intro observers initial listers
  have nonempty : ∀ observer ∈ observers, observer.path ≠ [] := by simp [observers]
  have apart : (observers.map (·.path)).Pairwise Path.Apart := by decide
  refine ⟨nonempty, apart, ?_⟩
  have written := observed_after nonempty apart initial (show listers ≠ [] by simp [listers])
  have lists : (∅ : Tree).writeLists (observers.filterMap fun observer =>
      (observer.lastGood initial listers).map fun list => (observer.path, list)) =
      ⟨Tree.ofList [("a", .ofMembers
        [("x", .ofStrings ["Kept=true"]), ("y", .ofStrings ["A=true", "B=false"])])], none⟩ := rfl
  rw [lists, Written.mk.injEq] at written
  exact written.1.symm

end FlagsObserver

end FeatureFlags
