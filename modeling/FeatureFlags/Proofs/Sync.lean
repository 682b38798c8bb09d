import FeatureFlags.Proofs.Observe
import FeatureFlags.Proofs.Turns

/-!
# Syncs of flag observers

A controller whose observers all observe flags publishes their offers, laid over one
another. Its tree is a tree of lists from the first sync on, whatever it held before, and a
sync reports a change exactly if that tree is another one.

A run is given by what lookups answer at each of its syncs; what they answer in between
makes no difference.
-/

namespace FeatureFlags

namespace Controller

/-- A controller of flag observers. -/
def ofFlags (observers : List FlagsObserver) (observed : Tree) : Controller :=
  ⟨observers.map FlagsObserver.toObserver, observed⟩

/-- The controller after a run, the answers of the first sync standing first. -/
def after (controller : Controller) (listers : List Lister) : Controller :=
  listers.foldl (fun controller lister => (controller.sync lister).controller) controller

/-- The syncs of a run, in order. -/
def syncs (controller : Controller) : List Lister → List Sync
  | [] => []
  | lister :: rest => controller.sync lister :: (controller.sync lister).controller.syncs rest

theorem syncs_concat (controller : Controller) (listers : List Lister) (lister : Lister) :
    controller.syncs (listers ++ [lister]) =
      controller.syncs listers ++ [(controller.after listers).sync lister] := by
  induction listers generalizing controller with
  | nil => rfl
  | cons first rest ih =>
    rw [List.cons_append, syncs, ih, syncs, List.cons_append]
    rfl

theorem after_concat (controller : Controller) (listers : List Lister) (lister : Lister) :
    controller.after (listers ++ [lister]) =
      ((controller.after listers).sync lister).controller := by
  rw [after, List.foldl_append, ← after]
  rfl

end Controller

namespace FlagsObserver

/-- Flags can be derived from what lookups answer. -/
def Derives (observer : FlagsObserver) (lister : Lister) : Prop :=
  ∃ flags, observer.derive lister = .ok flags

/-- What the observers offer over a tree, laid over one another. -/
def publish (observers : List FlagsObserver) (lister : Lister) (existing : Tree) : Tree :=
  Tree.stack (observers.map fun observer => observer.offer lister existing)

theorem onlyLists_publish (observers : List FlagsObserver) (lister : Lister) (existing : Tree) :
    (publish observers lister existing).OnlyLists :=
  Tree.onlyLists_stack _

variable {lister : Lister} {existing : Tree}

theorem not_derives_iff {observer : FlagsObserver} :
    ¬ observer.Derives lister ↔ ∃ failure, observer.Fails lister failure := by
  simp only [Derives, ← derive_eq_error_iff]
  cases observer.derive lister <;> simp

theorem offer_list_of_not_derives {observer : FlagsObserver} (h : ¬ observer.Derives lister) :
    (observer.offer lister existing).list = existing.listAt observer.path := by
  obtain ⟨failure, fails⟩ := not_derives_iff.1 h
  exact offer_list_of_fails fails existing

theorem offer_list_of_derives {observer : FlagsObserver} (h : observer.Derives lister)
    (existing existing' : Tree) :
    (observer.offer lister existing).list = (observer.offer lister existing').list := by
  obtain ⟨flags, derived⟩ := h
  rw [offer_list_of_derive derived, offer_list_of_derive derived]

/-- Flags that are derived bear on every path that overlaps with the observer's own. -/
theorem touches_of_derives {observer : FlagsObserver} (h : observer.Derives lister)
    (nonempty : observer.path ≠ []) (existing : Tree) {q : Path}
    (overlaps : observer.path.Overlaps q) : (observer.offer lister existing).Touches q := by
  obtain ⟨flags, derived⟩ := h
  exact ⟨nonempty, by simp [offer_list_of_derive derived], overlaps⟩

/-- A list that is kept bears on every path that overlaps with the observer's own. -/
theorem touches_of_not_derives {observer : FlagsObserver} (h : ¬ observer.Derives lister)
    {list : List String} (read : existing.listAt observer.path = some list) {q : Path}
    (overlaps : observer.path.Overlaps q) : (observer.offer lister existing).Touches q :=
  ⟨Tree.ne_nil_of_listAt read, by simp [offer_list_of_not_derives h, read], overlaps⟩

/-- An observer that does not derive its flags bears on something only with a list it read. -/
theorem exists_listAt_of_touches {observer : FlagsObserver} (h : ¬ observer.Derives lister)
    {q : Path} (touches : (observer.offer lister existing).Touches q) :
    ∃ list, existing.listAt observer.path = some list := by
  have present := touches.2.1
  rw [offer_list_of_not_derives h] at present
  exact Option.isSome_iff_exists.1 present

/-- A list that is read after a sync was offered by an observer of its path, and no later
    offer touches it. -/
theorem exists_of_listAt_publish {observers : List FlagsObserver} {q : Path}
    {list : List String} (read : (publish observers lister existing).listAt q = some list) :
    ∃ before observer after, observers = before ++ observer :: after ∧ observer.path = q ∧
      (observer.offer lister existing).list = some list ∧
      ∀ later ∈ after, ¬ (later.offer lister existing).Touches q := by
  obtain ⟨first, last, split, untouched⟩ := Tree.exists_offer_of_listAt_stack read
  obtain ⟨before, rest, rfl, -, split⟩ := List.map_eq_append_iff.1 split
  obtain ⟨observer, after, rfl, offered, rfl⟩ := List.map_eq_cons_iff.1 split
  refine ⟨before, observer, after, rfl, ?_, ?_, fun later member => ?_⟩
  · exact congrArg Offer.path offered
  · rw [offered]
  · exact untouched _ (List.mem_map_of_mem member)

/-- What an observer offers at a path is read there after the sync, unless a later offer that
    touches the path says otherwise. -/
theorem listAt_publish {observers before after : List FlagsObserver} {observer : FlagsObserver}
    (split : observers = before ++ observer :: after) {q : Path}
    (touches : (observer.offer lister existing).Touches q)
    (agree : ∀ later ∈ after, (later.offer lister existing).Touches q →
      (later.offer lister existing).listAt q = (observer.offer lister existing).listAt q) :
    (publish observers lister existing).listAt q = (observer.offer lister existing).listAt q := by
  rw [publish, split, List.map_append, List.map_cons]
  apply Tree.listAt_stack _ _ _ touches
  intro offer member touched
  obtain ⟨later, there, rfl⟩ := List.mem_map.1 member
  exact agree later there touched

/-- A list of the tree stays if one of the observers of its path offers it and no later one
    derives flags for a path that overlaps: those which keep what they read leave it. -/
theorem listAt_publish_of_kept {observers before after : List FlagsObserver}
    {observer : FlagsObserver} (split : observers = before ++ observer :: after)
    {list : List String} (read : existing.listAt observer.path = some list)
    (offered : (observer.offer lister existing).list = some list)
    (apart : ∀ later ∈ after, later.Derives lister → later.path.Apart observer.path) :
    (publish observers lister existing).listAt observer.path = some list := by
  have touches : (observer.offer lister existing).Touches observer.path :=
    ⟨Tree.ne_nil_of_listAt read, by simp [offered], Path.overlaps_refl _⟩
  rw [listAt_publish split touches]
  · rw [listAt_offer_self, offered]
  · intro later there touched
    have keeps : ¬ later.Derives lister := fun derives =>
      apart later there derives touched.2.2
    obtain ⟨list', read'⟩ := exists_listAt_of_touches keeps touched
    have same := Tree.eq_of_listAt_of_overlaps read' read touched.2.2
    rw [listAt_offer_self, offered, ← same, listAt_offer_self, offer_list_of_not_derives keeps,
      same, read]

/-! ## Paths apart -/

section Apart

variable {observers : List FlagsObserver} (nonempty : ∀ observer ∈ observers, observer.path ≠ [])
  (apart : (observers.map (·.path)).Pairwise Path.Apart)

include apart in
theorem pairwise_offers (lister : Lister) (existing : Tree) :
    (observers.map fun observer => observer.offer lister existing).Pairwise
      fun a b => a.path.Apart b.path :=
  List.pairwise_map.2 (List.pairwise_map.1 apart)

include nonempty in
theorem path_ne_nil_of_mem_offers {lister : Lister} {existing : Tree} {offer : Offer}
    (member : offer ∈ observers.map fun observer => observer.offer lister existing) :
    offer.path ≠ [] := by
  obtain ⟨observer, there, rfl⟩ := List.mem_map.1 member
  exact nonempty observer there

include nonempty apart in
/-- Over paths apart every observer's offer is read after the sync. -/
theorem listAt_publish_of_apart {observer : FlagsObserver} (member : observer ∈ observers)
    (lister : Lister) (existing : Tree) :
    (publish observers lister existing).listAt observer.path =
      (observer.offer lister existing).list :=
  Tree.listAt_stack_of_pairwise (pairwise_offers apart lister existing)
    (List.mem_map_of_mem member) (nonempty observer member)

include nonempty apart in
/-- Over paths apart the order of the observers makes no difference to what is published. -/
theorem publish_perm {observers' : List FlagsObserver} (order : observers.Perm observers') :
    publish observers = publish observers' := by
  funext lister existing
  exact Tree.stack_perm (order.map _) (pairwise_offers apart lister existing)
    fun _ member => path_ne_nil_of_mem_offers nonempty member

end Apart

end FlagsObserver

namespace Controller

open FlagsObserver

variable (observers : List FlagsObserver) (existing : Tree) (lister : Lister)

theorem layered_ofFlags :
    (ofFlags observers existing).layered lister = publish observers lister existing := by
  rw [layered, publish, Tree.stack, Tree.mergeAll, ofFlags, List.map_map, List.foldl_map,
    List.foldl_map]
  simp only [Function.comp_apply, toObserver, observe_config]

theorem collected_ofFlags : (ofFlags observers existing).collected lister =
    observers.flatMap fun observer => (observer.observe lister existing).1.errors :=
  List.flatMap_map ..

theorem notices_observing_ofFlags : ((ofFlags observers existing).observing lister).notices =
    observers.flatMap fun observer => (observer.observe lister existing).2.notices :=
  List.flatMap_map ..

/-- What a sync reports and announces, and the controller it leaves. -/
theorem sync_ofFlags :
    ((ofFlags observers existing).sync lister).controller =
      ofFlags observers (publish observers lister existing) ∧
    ((ofFlags observers existing).sync lister).report =
      ⟨decide (existing ≠ publish observers lister existing),
        observers.flatMap fun observer => (observer.observe lister existing).1.errors⟩ ∧
    ((ofFlags observers existing).sync lister).trace.notices =
      (observers.flatMap fun observer => (observer.observe lister existing).2.notices) ++
        if existing = publish observers lister existing then []
        else [.configChanged (publish observers lister existing)] := by
  have same := (onlyLists_publish observers lister existing).same_iff (t := existing)
  rw [← layered_ofFlags] at same ⊢
  rw [← collected_ofFlags, ← notices_observing_ofFlags]
  by_cases unchanged : existing = (ofFlags observers existing).layered lister
  · rw [sync_of_same _ _ (same.2 unchanged), if_pos unchanged, List.append_nil]
    refine ⟨by rw [← unchanged], by simp [← unchanged], ?_⟩
    exact List.append_nil _
  · rw [sync_of_not_same _ _ (mt same.1 unchanged), if_neg unchanged]
    exact ⟨rfl, by simp [unchanged], rfl⟩

theorem controller_sync : ((ofFlags observers existing).sync lister).controller =
    ofFlags observers (publish observers lister existing) :=
  (sync_ofFlags observers existing lister).1

theorem changed_sync : ((ofFlags observers existing).sync lister).report.changed = false ↔
    existing = publish observers lister existing := by
  rw [(sync_ofFlags observers existing lister).2.1]
  simp

theorem errors_sync : ((ofFlags observers existing).sync lister).report.errors =
    observers.flatMap fun observer => (observer.observe lister existing).1.errors := by
  rw [(sync_ofFlags observers existing lister).2.1]

/-- A run publishes once for each of its syncs. -/
theorem after_ofFlags (listers : List Lister) :
    (ofFlags observers existing).after listers =
      ofFlags observers
        (listers.foldl (fun existing lister => publish observers lister existing) existing) := by
  induction listers generalizing existing with
  | nil => rfl
  | cons lister rest ih =>
    rw [after, List.foldl_cons, controller_sync, List.foldl_cons]
    exact ih (publish observers lister existing)

/-- A run leaves the observers as they are. -/
theorem exists_after_eq (listers : List Lister) :
    ∃ t, (ofFlags observers existing).after listers = ofFlags observers t :=
  ⟨_, after_ofFlags observers existing listers⟩

end Controller

end FeatureFlags
