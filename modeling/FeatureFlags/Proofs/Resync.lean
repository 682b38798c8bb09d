import FeatureFlags.Proofs.Sync

/-!
# Syncing again

While lookups answer the same, a second sync should find nothing to change. Where paths
overlap it can. An observer that cannot derive its flags keeps the list it reads, and this
list hides an earlier one below its path. When flags derived still later go below the path
too, they take the kept list away, but what it has hidden is gone already. At the next sync
there is nothing to keep, so nothing is hidden, and the earlier list comes back.

That is the only way: a second sync changes something exactly if the first one hides a list
like this (`FlagsObserver.Revival`).
-/

namespace FeatureFlags

/-- The last element of a list with some property. -/
theorem exists_last {α : Type} {p : α → Prop} {l : List α} (h : ∃ x ∈ l, p x) :
    ∃ before x after, l = before ++ x :: after ∧ p x ∧ ∀ y ∈ after, ¬ p y := by
  induction l using List.reverseRecOn with
  | nil => simp at h
  | append_singleton l last ih =>
    by_cases holds : p last
    · exact ⟨l, last, [], rfl, holds, by simp⟩
    · obtain ⟨x, member, hx⟩ := h
      have inside : x ∈ l := by
        rcases List.mem_append.1 member with inside | there
        · exact inside
        · exact absurd (List.mem_singleton.1 there ▸ hx) holds
      obtain ⟨before, y, after, rfl, hy, rest⟩ := ih ⟨x, inside, hx⟩
      refine ⟨before, y, after ++ [last], by simp, hy, fun z there => ?_⟩
      rcases List.mem_append.1 there with early | there
      · exact rest z early
      · exact List.mem_singleton.1 there ▸ holds

namespace FlagsObserver

/-- Observers of which one derives flags that are missing after a sync and back after the next:
    `hidden` is followed by `keeper`, which keeps a list at a path above, and this by `remover`,
    which derives flags for another place below that path. -/
structure Revival (observers : List FlagsObserver) (lister : Lister) (existing : Tree) where
  before : List FlagsObserver
  hidden : FlagsObserver
  between : List FlagsObserver
  keeper : FlagsObserver
  middle : List FlagsObserver
  remover : FlagsObserver
  after : List FlagsObserver
  order : observers = before ++ hidden :: (between ++ keeper :: (middle ++ remover :: after))
  derives : hidden.Derives lister
  keeps : ¬ keeper.Derives lister
  kept : (existing.listAt keeper.path).isSome
  removes : remover.Derives lister
  above_hidden : keeper.path <+: hidden.path
  above_remover : keeper.path <+: remover.path
  /-- Nothing derived later comes near the flags that were hidden. -/
  apart : ∀ later ∈ between ++ keeper :: (middle ++ remover :: after),
    later.Derives lister → later.path.Apart hidden.path
  /-- Nothing brings the kept list back. -/
  gone : ∀ later ∈ after, later.path ≠ keeper.path

variable {observers : List FlagsObserver} {lister : Lister} {existing : Tree}

/-- What is read after a sync is read after the next one. -/
theorem listAt_publish_publish (nonempty : ∀ observer ∈ observers, observer.path ≠ [])
    {q : Path} {list : List String}
    (read : (publish observers lister existing).listAt q = some list) :
    (publish observers lister (publish observers lister existing)).listAt q = some list := by
  obtain ⟨before, observer, after, rfl, rfl, offered, untouched⟩ := exists_of_listAt_publish read
  apply listAt_publish_of_kept rfl read
  · by_cases derives : observer.Derives lister
    · rw [offer_list_of_derives derives _ existing, offered]
    · rw [offer_list_of_not_derives derives, read]
  · intro later there derives overlaps
    exact untouched later there
      (touches_of_derives derives (nonempty later (by simp [there])) _ overlaps)

namespace Revival

/-- The kept list stands above the hidden flags, not at their place: what removes it is below
    it and away from them. -/
theorem keeper_ne_hidden (r : Revival observers lister existing) :
    r.keeper.path ≠ r.hidden.path := by
  intro same
  exact r.apart r.remover (by simp) r.removes (.inr (same ▸ r.above_remover))

/-- The kept list is gone after the sync. -/
theorem listAt_keeper (r : Revival observers lister existing)
    (nonempty : ∀ observer ∈ observers, observer.path ≠ []) :
    (publish observers lister existing).listAt r.keeper.path = none := by
  have split : observers =
      (r.before ++ r.hidden :: (r.between ++ r.keeper :: r.middle)) ++ r.remover :: r.after := by
    simpa using r.order
  have elsewhere : r.remover.path ≠ r.keeper.path := by
    intro same
    exact r.apart r.remover (by simp) r.removes (.inl (same ▸ r.above_hidden))
  have touches := touches_of_derives r.removes (nonempty r.remover (by simp [split])) existing
    (.inr r.above_remover)
  rw [listAt_publish split touches]
  · exact listAt_offer_of_ne elsewhere existing
  · intro later there _
    rw [listAt_offer_of_ne (r.gone later there), listAt_offer_of_ne elsewhere]

/-- No list is left where the kept one hid the flags. -/
theorem listAt_hidden (r : Revival observers lister existing) {q : Path}
    (overlaps : q.Overlaps r.hidden.path) (elsewhere : r.keeper.path ≠ q) :
    (publish observers lister existing).listAt q = none := by
  have split : observers =
      (r.before ++ r.hidden :: r.between) ++ r.keeper :: (r.middle ++ r.remover :: r.after) := by
    simpa using r.order
  obtain ⟨list, read⟩ := Option.isSome_iff_exists.1 r.kept
  have meets : r.keeper.path.Overlaps q := .of_above r.above_hidden overlaps
  rw [listAt_publish split (touches_of_not_derives r.keeps read meets)]
  · exact listAt_offer_of_ne elsewhere existing
  · intro later there touched
    have away : later.path ≠ q := by
      rintro rfl
      by_cases derives : later.Derives lister
      · exact r.apart later (by simp [there]) derives overlaps
      · obtain ⟨list', read'⟩ := exists_listAt_of_touches derives touched
        exact elsewhere (Tree.eq_of_listAt_of_overlaps read read' meets)
    rw [listAt_offer_of_ne away, listAt_offer_of_ne elsewhere]

/-- The hidden flags are read after the next sync. -/
theorem isSome_listAt (r : Revival observers lister existing)
    (nonempty : ∀ observer ∈ observers, observer.path ≠ []) :
    ((publish observers lister (publish observers lister existing)).listAt
      r.hidden.path).isSome := by
  have touches := touches_of_derives r.derives (nonempty r.hidden (by simp [r.order]))
    (publish observers lister existing) (Path.overlaps_refl _)
  rw [listAt_publish r.order touches, listAt_offer_self]
  · exact touches.2.1
  · intro later there touched
    -- Nothing is derived there, and what could be kept there is gone since the first sync.
    by_cases derives : later.Derives lister
    · exact absurd touched.2.2 (r.apart later there derives)
    · obtain ⟨list, read⟩ := exists_listAt_of_touches derives touched
      by_cases same : r.keeper.path = later.path
      · rw [← same, r.listAt_keeper nonempty] at read
        cases read
      · have overlaps : later.path.Overlaps r.hidden.path := touched.2.2
        rw [r.listAt_hidden overlaps same] at read
        cases read

end Revival

/-- A sync over a published tree that changes it brings a list back. -/
theorem exists_listAt_of_resync (nonempty : ∀ observer ∈ observers, observer.path ≠ [])
    (changes : publish observers lister (publish observers lister existing) ≠
      publish observers lister existing) :
    ∃ q list, (publish observers lister existing).listAt q = none ∧
      (publish observers lister (publish observers lister existing)).listAt q = some list := by
  by_contra none
  apply changes
  apply Tree.ext_listAt (onlyLists_publish _ _ _) (onlyLists_publish _ _ _)
  intro q
  cases before : (publish observers lister existing).listAt q with
  | some list => exact listAt_publish_publish nonempty before
  | none =>
    cases now : (publish observers lister (publish observers lister existing)).listAt q with
    | none => rfl
    | some list => exact absurd ⟨q, list, before, now⟩ none

/-- An offer that cannot be read after the sync has a later one in its way. -/
theorem exists_touches_of_lost {before after : List FlagsObserver} {observer : FlagsObserver}
    (split : observers = before ++ observer :: after)
    (touches : (observer.offer lister existing).Touches observer.path)
    (lost : (publish observers lister existing).listAt observer.path = none) :
    ∃ later ∈ after, (later.offer lister existing).Touches observer.path := by
  by_contra none
  have read := listAt_publish split touches fun later there touched =>
    absurd ⟨later, there, touched⟩ none
  rw [lost, listAt_offer_self] at read
  have present := touches.2.1
  rw [← read] at present
  cases present

/-- A list that comes back was derived, and was hidden by one that was kept and is gone. -/
theorem nonempty_revival (nonempty : ∀ observer ∈ observers, observer.path ≠ []) {q : Path}
    {list : List String} (missing : (publish observers lister existing).listAt q = none)
    (back : (publish observers lister (publish observers lister existing)).listAt q = some list) :
    Nonempty (Revival observers lister existing) := by
  obtain ⟨before, hidden, tail, order, rfl, offered, untouched⟩ := exists_of_listAt_publish back
  have paths : ∀ observer ∈ tail, observer.path ≠ [] :=
    fun observer member => nonempty observer (by simp [order, member])
  have derives : hidden.Derives lister := by
    by_contra keeps
    rw [offer_list_of_not_derives keeps, missing] at offered
    cases offered
  have apart : ∀ later ∈ tail, later.Derives lister → later.path.Apart hidden.path :=
    fun later there derived overlaps =>
      untouched later there (touches_of_derives derived (paths later there) _ overlaps)
  -- The last offer of the first sync that bears on the hidden path is a kept list.
  have touches := touches_of_derives derives (nonempty hidden (by simp [order])) existing
    (Path.overlaps_refl _)
  obtain ⟨between, keeper, rest, rfl, hides, last⟩ :=
    exists_last (exists_touches_of_lost order touches missing)
  have meets : keeper.path.Overlaps hidden.path := hides.2.2
  have keeps : ¬ keeper.Derives lister := fun derived => apart keeper (by simp) derived meets
  obtain ⟨kept, read⟩ := exists_listAt_of_touches keeps hides
  have gone : (publish observers lister existing).listAt keeper.path = none := by
    cases there : (publish observers lister existing).listAt keeper.path with
    | none => rfl
    | some list =>
      exact absurd (touches_of_not_derives keeps there meets) (untouched keeper (by simp))
  -- So something later took it away, which is not near the hidden path.
  have split : observers = (before ++ hidden :: between) ++ keeper :: rest := by
    simpa using order
  obtain ⟨remover, member, removes⟩ :=
    exists_touches_of_lost split (touches_of_not_derives keeps read (Path.overlaps_refl _)) gone
  have onto : remover.path.Overlaps keeper.path := removes.2.2
  have away : remover.path.Apart hidden.path := fun overlaps =>
    last remover member ⟨removes.1, removes.2.1, overlaps⟩
  obtain ⟨middle, after, rfl⟩ := List.append_of_mem member
  refine ⟨⟨before, hidden, between, keeper, middle, remover, after, order, derives, keeps,
    by simp [read], ?_, ?_, ?_, apart, ?_⟩⟩
  · by_contra still
    obtain ⟨list', read'⟩ := exists_listAt_of_touches still removes
    exact away (Tree.eq_of_listAt_of_overlaps read' read onto ▸ meets)
  · rcases meets with above | below
    · exact above
    · exact absurd (Path.Overlaps.of_above below onto) away.symm
  · rcases onto with below | above
    · exact absurd (Path.Overlaps.of_above below (Path.overlaps_comm.1 meets)) away
    · exact above
  · intro later there same
    have near : later.path.Overlaps hidden.path := same ▸ meets
    refine last later (by simp [there]) ?_
    by_cases derived : later.Derives lister
    · exact touches_of_derives derived (paths later (by simp [there])) existing near
    · exact touches_of_not_derives derived (same ▸ read) near

/-- A second sync over the same answers reports no change and leaves the tree as it is, unless
    the first one hides a list that comes back. -/
theorem resync_quiet_iff (nonempty : ∀ observer ∈ observers, observer.path ≠ [])
    (existing : Tree) (lister : Lister) :
    let first := (Controller.ofFlags observers existing).sync lister
    let second := first.controller.sync lister
    second.report.changed = false ∧ second.controller.observed = first.controller.observed ↔
      ¬ Nonempty (Revival observers lister existing) := by
  simp only [Controller.controller_sync, Controller.changed_sync]
  constructor
  · rintro ⟨unchanged, -⟩ ⟨r⟩
    have back := r.isSome_listAt nonempty
    rw [← unchanged, r.listAt_hidden (Path.overlaps_refl _) r.keeper_ne_hidden] at back
    cases back
  · intro steady
    have unchanged : publish observers lister existing =
        publish observers lister (publish observers lister existing) := by
      by_contra changes
      obtain ⟨q, list, missing, back⟩ := exists_listAt_of_resync nonempty (Ne.symm changes)
      exact steady (nonempty_revival nonempty missing back)
    exact ⟨unchanged, unchanged.symm⟩

/-- With the kept list registered first it hides nothing that was derived before it. -/
theorem resync_quiet_of_keeper_first :
    let registry : Registry := Table.ofList [(.default, ⟨["A"], []⟩)]
    let observers : List FlagsObserver :=
      [⟨[], ["a"], ∅⟩, ⟨[], ["a", "x"], registry⟩, ⟨[], ["a", "y"], registry⟩]
    let existing := Tree.only ["a"] (.ofStrings ["Kept=true"])
    let lister : Lister := fun _ => .ok none
    let first := (Controller.ofFlags observers existing).sync lister
    (∀ observer ∈ observers, observer.path ≠ []) ∧
      first.controller.observed = Tree.ofList
        [("a", .ofMembers [("x", .ofStrings ["A=true"]), ("y", .ofStrings ["A=true"])])] ∧
      (first.controller.sync lister).report.changed = false ∧
      ¬ Nonempty (Revival observers lister existing) := by
  intro registry observers existing lister
  have nonempty : ∀ observer ∈ observers, observer.path ≠ [] := by simp [observers]
  have quiet : (((Controller.ofFlags observers existing).sync lister).controller.sync
      lister).report.changed = false := by decide +kernel
  have steady := (resync_quiet_iff nonempty existing lister).1 ⟨quiet, by decide +kernel⟩
  exact ⟨nonempty, by decide +kernel, quiet, steady⟩

/-- Between the two others the kept list hides what the first one derived. -/
theorem resync_not_quiet :
    ¬ ∀ (observers : List FlagsObserver) (existing : Tree) (lister : Lister),
      (∀ observer ∈ observers, observer.path ≠ []) →
      let first := (Controller.ofFlags observers existing).sync lister
      let second := first.controller.sync lister
      second.report.changed = false ∧
        second.controller.observed = first.controller.observed := by
  intro quiet
  let registry : Registry := Table.ofList [(.default, ⟨["A"], []⟩)]
  have unchanged := (quiet [⟨[], ["a", "x"], registry⟩, ⟨[], ["a"], ∅⟩, ⟨[], ["a", "y"], registry⟩]
    (Tree.only ["a"] (.ofStrings ["Kept=true"])) (fun _ => .ok none) (by simp)).1
  exact absurd unchanged (by decide +kernel)

end FlagsObserver

end FeatureFlags
