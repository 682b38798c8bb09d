import FeatureFlags.Proofs.Sync
import Mathlib.Data.List.Basic

/-!
# What observers can see

Of all that a cache holds observers of flags can see little: whether it answers lookups, and
then the set of the cluster's gate, and the names on it if this is the custom set. Two runs over
caches that look alike at every sync come to the same, however different the histories of the
caches are.
-/

namespace FeatureFlags

/-- What observers can see of a gate. -/
def Gate.view (gate : Gate) : Selection :=
  ⟨gate.featureSet, if gate.featureSet.isCustom then gate.custom else none⟩

/-- What observers can see of a cache: nothing as long as it answers no lookup; a missing gate
    looks like one that selects the default set. -/
def Cache.view (cache : Cache) : Option Selection :=
  if cache.synced then some ((cache.held? Gate.clusterName).getD (.cluster .default)).view
  else none

/-- What a change makes of the view. -/
def CacheChange.seen : CacheChange → Option Selection → Option Selection
  | upsert gate, view => if gate.name = Gate.clusterName then view.map fun _ => gate.view else view
  | remove name, view =>
    if name = Gate.clusterName then view.map fun _ => (Gate.cluster .default).view else view
  | replaceAll gates, _ =>
    some ((gates.filter (·.name = Gate.clusterName)).getLast?.getD (.cluster .default)).view
  | markUnsynced, _ => none

/-- What happens in the course of a run over a cache. -/
inductive CacheStep
  | change (change : CacheChange)
  | sync

/-- The caches that a run meets at its syncs. -/
def Cache.atSyncs (cache : Cache) : List CacheStep → List Cache
  | [] => []
  | .change change :: rest => (cache.apply change).atSyncs rest
  | .sync :: rest => cache :: cache.atSyncs rest

/-- What comes of a sync: its report, the tree that is observed then, and what it announces. -/
structure SyncOutcome where
  report : SyncReport
  observed : Tree
  notices : List Notice
  deriving DecidableEq

def Sync.outcome (sync : Sync) : SyncOutcome :=
  ⟨sync.report, sync.controller.observed, sync.trace.notices⟩

namespace Controller

/-- What comes of the syncs of a run, with lookups answered by a cache that changes. -/
def outcomes (controller : Controller) (cache : Cache) : List CacheStep → List SyncOutcome
  | [] => []
  | .change change :: rest => controller.outcomes (cache.apply change) rest
  | .sync :: rest =>
    let sync := controller.sync cache.get
    sync.outcome :: sync.controller.outcomes cache rest

/-- It makes no difference to a controller which of two courses a run takes at some point. -/
def Alike (controller : Controller) (steps steps' : List CacheStep) : Prop :=
  ∀ (cache : Cache) (before after : List CacheStep),
    controller.outcomes cache (before ++ steps ++ after) =
      controller.outcomes cache (before ++ steps' ++ after)

theorem outcomes_eq_map_syncs (controller : Controller) (cache : Cache) (steps : List CacheStep) :
    controller.outcomes cache steps =
      (controller.syncs ((cache.atSyncs steps).map Cache.get)).map Sync.outcome := by
  induction steps generalizing controller cache with
  | nil => rfl
  | cons step rest ih =>
    cases step with
    | change change => exact ih controller (cache.apply change)
    | sync => rw [outcomes, ih, Cache.atSyncs, List.map_cons, syncs, List.map_cons]

end Controller

/-! ## The view of a cache -/

namespace Cache

/-- What a change makes of the view depends on the view alone. -/
theorem view_apply (cache : Cache) (change : CacheChange) :
    (cache.apply change).view = change.seen cache.view := by
  cases change with
  | upsert gate =>
    simp only [apply, view, held?, Table.get?_insert, CacheChange.seen]
    by_cases cluster : gate.name = Gate.clusterName
    · cases cache.synced <;> simp [cluster]
    · simp [cluster, Ne.symm cluster]
  | remove name =>
    simp only [apply, view, held?, Table.get?_erase, CacheChange.seen]
    by_cases cluster : name = Gate.clusterName
    · cases cache.synced <;> simp [cluster]
    · simp [cluster, Ne.symm cluster]
  | replaceAll gates =>
    simp only [apply, view, held?, get?_gatesByName, CacheChange.seen, if_true]
  | markUnsynced => rfl

/-- Caches that look alike keep looking alike through the same course. -/
theorem views_of_view_eq {cache cache' : Cache} (same : cache.view = cache'.view)
    (steps : List CacheStep) :
    (cache.atSyncs steps).map view = (cache'.atSyncs steps).map view := by
  induction steps generalizing cache cache' with
  | nil => rfl
  | cons step rest ih =>
    cases step with
    | change change =>
      apply ih
      rw [view_apply, view_apply, same]
    | sync => rw [atSyncs, atSyncs, List.map_cons, List.map_cons, same, ih same]

/-- Courses that go on alike from every cache go on alike after the same beginning. -/
theorem views_append {steps steps' : List CacheStep}
    (alike : ∀ cache : Cache, (cache.atSyncs steps).map view = (cache.atSyncs steps').map view)
    (cache : Cache) (before : List CacheStep) :
    (cache.atSyncs (before ++ steps)).map view = (cache.atSyncs (before ++ steps')).map view := by
  induction before generalizing cache with
  | nil => exact alike cache
  | cons step rest ih =>
    cases step with
    | change change => exact ih (cache.apply change)
    | sync =>
      rw [List.cons_append, List.cons_append, atSyncs, atSyncs, List.map_cons, List.map_cons,
        ih cache]

end Cache

/-! ## Changes that look alike -/

namespace CacheChange

theorem seen_upsert_of_ne {gate : Gate} (other : gate.name ≠ Gate.clusterName) :
    (upsert gate).seen = id :=
  funext fun _ => if_neg other

theorem seen_remove_of_ne {name : String} (other : name ≠ Gate.clusterName) :
    (remove name).seen = id :=
  funext fun _ => if_neg other

theorem seen_upsert_congr {gate gate' : Gate} (names : gate.name = gate'.name)
    (views : gate.view = gate'.view) : (upsert gate).seen = (upsert gate').seen := by
  funext view
  rw [seen, seen, names, views]

/-- The cluster's gate with the default set looks like none, whatever names are on it. -/
theorem seen_upsert_default {gate : Gate} (cluster : gate.name = Gate.clusterName)
    (default : gate.featureSet = .default) :
    (upsert gate).seen = (remove Gate.clusterName).seen := by
  have looks : gate.view = (Gate.cluster .default).view := by
    rw [Gate.view, default]
    rfl
  funext view
  rw [seen, seen, if_pos cluster, if_pos rfl, looks]

theorem seen_replaceAll_filter (gates : List Gate) :
    (replaceAll (gates.filter (·.name = Gate.clusterName))).seen = (replaceAll gates).seen := by
  funext view
  simp [seen]

/-- Of the gates that replace all others the names and the views are seen at most. -/
theorem seen_replaceAll_congr {gates gates' : List Gate}
    (same : gates.map (fun gate => (gate.name, gate.view)) =
      gates'.map fun gate => (gate.name, gate.view)) :
    (replaceAll gates).seen = (replaceAll gates').seen := by
  have looks (gates : List Gate) :
      ((gates.filter (·.name = Gate.clusterName)).getLast?.getD (.cluster .default)).view =
        (((gates.map fun gate => (gate.name, gate.view)).filter
          (·.1 = Gate.clusterName)).getLast?.map Prod.snd).getD
            (Gate.cluster .default).view := by
    rw [List.filter_map, List.getLast?_map, Option.map_map]
    exact (Option.getD_map Gate.view (Gate.cluster .default) _).symm
  funext view
  rw [seen, seen, looks gates, looks gates', same]

end CacheChange

/-! ## What observers make of it -/

namespace FlagsObserver

variable {observers : List FlagsObserver} {lister lister' : Lister}

/-- Of a gate only its view bears on the flags. -/
theorem flags_view (observer : FlagsObserver) (identity : Identity) (gate : Gate) :
    observer.flags ⟨identity, gate.view⟩ = observer.flags gate := by
  by_cases custom : gate.featureSet.isCustom
  · have view : gate.view = gate.selection := by
      rw [Gate.view, if_pos custom]
      rfl
    rw [view]
    rfl
  · have set : (Gate.mk identity gate.view).featureSet = gate.featureSet := rfl
    rw [flags, flags, set, if_neg custom, if_neg custom]

/-- What is derived from the lookups of a cache is a matter of its view. -/
theorem derive_get (observer : FlagsObserver) (cache : Cache) :
    observer.derive cache.get =
      match cache.view with
      | some view => observer.flags ⟨⟨Gate.clusterName, none⟩, view⟩
      | none => .error (.lookup Gate.clusterName .notSynced) := by
  by_cases synced : cache.synced
  · simp [derive, Cache.get, Cache.view, synced, flags_view]
  · simp [derive, Cache.get, Cache.view, synced]

/-- Lookups bear on what an observer returns and announces by the flags derived from them. -/
theorem observe_eq_of_derive {observer : FlagsObserver}
    (same : observer.derive lister = observer.derive lister') (existing : Tree) :
    (observer.observe lister existing).1 = (observer.observe lister' existing).1 ∧
    (observer.observe lister existing).2.notices =
      (observer.observe lister' existing).2.notices := by
  simp only [observe, same]
  cases observer.derive lister' with
  | error failure => exact ⟨rfl, rfl⟩
  | ok flags => exact ⟨rfl, rfl⟩

theorem offer_eq_of_derive {observer : FlagsObserver}
    (same : observer.derive lister = observer.derive lister') (existing : Tree) :
    observer.offer lister existing = observer.offer lister' existing := by
  rw [offer, offer, same]

theorem publish_eq_of_derive
    (same : ∀ observer ∈ observers, observer.derive lister = observer.derive lister')
    (existing : Tree) : publish observers lister existing = publish observers lister' existing :=
  congrArg Tree.stack <| List.map_congr_left fun observer member =>
    offer_eq_of_derive (same observer member) existing

/-- Lookups bear on a sync by the flags that the observers derive from them. -/
theorem sync_eq_of_derive
    (same : ∀ observer ∈ observers, observer.derive lister = observer.derive lister')
    (existing : Tree) :
    ((Controller.ofFlags observers existing).sync lister).outcome =
      ((Controller.ofFlags observers existing).sync lister').outcome := by
  have errors : (observers.flatMap fun observer => (observer.observe lister existing).1.errors) =
      observers.flatMap fun observer => (observer.observe lister' existing).1.errors :=
    List.flatMap_congr fun observer member => by
      rw [(observe_eq_of_derive (same observer member) existing).1]
  have notices :
      (observers.flatMap fun observer => (observer.observe lister existing).2.notices) =
        observers.flatMap fun observer => (observer.observe lister' existing).2.notices :=
    List.flatMap_congr fun observer member =>
      (observe_eq_of_derive (same observer member) existing).2
  obtain ⟨left, report, announced⟩ := Controller.sync_ofFlags observers existing lister
  obtain ⟨left', report', announced'⟩ := Controller.sync_ofFlags observers existing lister'
  rw [Sync.outcome, Sync.outcome, left, report, announced, left', report', announced',
    publish_eq_of_derive same, errors, notices]

end FlagsObserver

/-! ## Runs -/

namespace Controller

open FlagsObserver

variable (observers : List FlagsObserver) (observed : Tree)

theorem syncs_of_views {caches caches' : List Cache}
    (same : caches.map Cache.view = caches'.map Cache.view) :
    ((ofFlags observers observed).syncs (caches.map Cache.get)).map Sync.outcome =
      ((ofFlags observers observed).syncs (caches'.map Cache.get)).map Sync.outcome := by
  induction caches generalizing caches' observed with
  | nil => rw [List.map_eq_nil_iff.1 same.symm]
  | cons cache rest ih =>
    obtain ⟨cache', rest', rfl, looks, later⟩ := List.map_eq_cons_iff.1 same.symm
    have derived : ∀ observer ∈ observers,
        observer.derive cache.get = observer.derive cache'.get :=
      fun observer _ => by rw [derive_get, derive_get, looks]
    simp only [List.map_cons, syncs]
    -- The first syncs leave the same tree, from which the others go on.
    rw [sync_eq_of_derive derived, controller_sync, controller_sync,
      publish_eq_of_derive derived, ih _ later.symm]

theorem outcomes_eq_of_views {cache cache' : Cache} {steps steps' : List CacheStep}
    (same : (cache.atSyncs steps).map Cache.view = (cache'.atSyncs steps').map Cache.view) :
    (ofFlags observers observed).outcomes cache steps =
      (ofFlags observers observed).outcomes cache' steps' := by
  rw [outcomes_eq_map_syncs, outcomes_eq_map_syncs]
  exact syncs_of_views observers observed same

/-- Courses after which every cache looks the same may stand for each other. -/
theorem alike_of_views {steps steps' : List CacheStep}
    (alike : ∀ (cache : Cache) (after : List CacheStep),
      (cache.atSyncs (steps ++ after)).map Cache.view =
        (cache.atSyncs (steps' ++ after)).map Cache.view) :
    (ofFlags observers observed).Alike steps steps' := by
  intro cache before after
  apply outcomes_eq_of_views
  rw [List.append_assoc, List.append_assoc]
  exact Cache.views_append (fun cache => alike cache after) cache before

theorem alike_of_seen_eq {change change' : CacheChange} (same : change.seen = change'.seen) :
    (ofFlags observers observed).Alike [.change change] [.change change'] :=
  alike_of_views observers observed fun cache after =>
    Cache.views_of_view_eq (by rw [Cache.view_apply, Cache.view_apply, same]) after

theorem alike_nil_of_seen {change : CacheChange} (unseen : change.seen = id) :
    (ofFlags observers observed).Alike [.change change] [] :=
  alike_of_views observers observed fun cache after =>
    Cache.views_of_view_eq (by rw [Cache.view_apply, unseen, id]) after

end Controller

namespace FlagsObserver

/-- Two runs over caches that look alike at every sync report, observe and announce the same.
    So no gate of another name matters, nor where the gates come from in a list of many; of the
    cluster's gate neither its version matters nor the names on it outside the custom mode; and
    whether it selects the default set or is removed is all one. -/
theorem outcomes_of_views (observers : List FlagsObserver) (observed : Tree) :
    let controller := Controller.ofFlags observers observed
    (∀ (cache cache' : Cache) (steps steps' : List CacheStep),
      (cache.atSyncs steps).map Cache.view = (cache'.atSyncs steps').map Cache.view →
        controller.outcomes cache steps = controller.outcomes cache' steps') ∧
    (∀ gate : Gate, gate.name ≠ Gate.clusterName →
      controller.Alike [.change (.upsert gate)] []) ∧
    (∀ name, name ≠ Gate.clusterName → controller.Alike [.change (.remove name)] []) ∧
    (∀ gates, controller.Alike [.change (.replaceAll gates)]
      [.change (.replaceAll (gates.filter (·.name = Gate.clusterName)))]) ∧
    (∀ gate gate' : Gate, gate.name = gate'.name → gate.view = gate'.view →
      controller.Alike [.change (.upsert gate)] [.change (.upsert gate')]) ∧
    (∀ gates gates' : List Gate, gates.map (fun gate => (gate.name, gate.view)) =
        gates'.map (fun gate => (gate.name, gate.view)) →
      controller.Alike [.change (.replaceAll gates)] [.change (.replaceAll gates')]) ∧
    ∀ gate : Gate, gate.name = Gate.clusterName → gate.featureSet = .default →
      controller.Alike [.change (.upsert gate)] [.change (.remove Gate.clusterName)] := by
  intro controller
  refine ⟨?_, ?_, ?_, ?_, ?_, ?_, ?_⟩
  · intro cache cache' steps steps' same
    exact Controller.outcomes_eq_of_views observers observed same
  · intro gate other
    exact Controller.alike_nil_of_seen _ _ (CacheChange.seen_upsert_of_ne other)
  · intro name other
    exact Controller.alike_nil_of_seen _ _ (CacheChange.seen_remove_of_ne other)
  · intro gates
    exact Controller.alike_of_seen_eq _ _ (CacheChange.seen_replaceAll_filter gates).symm
  · intro gate gate' names views
    exact Controller.alike_of_seen_eq _ _ (CacheChange.seen_upsert_congr names views)
  · intro gates gates' same
    exact Controller.alike_of_seen_eq _ _ (CacheChange.seen_replaceAll_congr same)
  · intro gate cluster default
    exact Controller.alike_of_seen_eq _ _ (CacheChange.seen_upsert_default cluster default)

/-- Three syncs over two caches with different histories: before the first the one is told of a
    gate that it does not show yet, and the other is lost; then the last of two gates of one name
    selects the default set, and the other cache holds no gate at all; and last both are told of
    the custom mode, under different versions. -/
theorem outcomes_of_views_histories :
    let controller := Controller.ofFlags [⟨["A"], ["a"], Table.ofList [(.default, ⟨["A"], []⟩)]⟩] ∅
    let names : FeatureNames := ⟨[], ["B"]⟩
    let other := Gate.ofSet "other" .latencySensitive
    let preview := Gate.cluster .techPreviewNoUpgrade
    let default := Gate.cluster .default
    let custom := Gate.ofNames names
    let steps : List CacheStep := [.change (.upsert custom), .sync,
      .change (.replaceAll [preview, other, default.withCustom names]), .sync,
      .change (.remove "other"), .change (.upsert (custom.withResourceVersion "7")), .sync]
    let steps' : List CacheStep := [.change .markUnsynced, .sync, .change (.replaceAll []), .sync,
      .change (.upsert custom), .sync]
    (({} : Cache).atSyncs steps).map Cache.view =
        ((Cache.ofGates [preview]).atSyncs steps').map Cache.view ∧
      controller.outcomes {} steps = controller.outcomes (Cache.ofGates [preview]) steps' ∧
      (controller.outcomes {} steps).map (·.observed) =
        [∅, Tree.only ["a"] (.ofStrings ["A=true"]), Tree.only ["a"] (.ofStrings ["B=false"])] ∧
      controller.Alike [.change (.upsert other)] [] ∧
      controller.Alike [.change (.remove "other")] [] ∧
      controller.Alike [.change (.upsert preview)]
        [.change (.upsert ((preview.withCustom names).withResourceVersion "7"))] ∧
      controller.Alike [.change (.replaceAll [custom, preview])]
        [.change (.replaceAll [custom.withResourceVersion "7", preview.withCustom names])] ∧
      controller.Alike [.change (.upsert (default.withCustom names))]
        [.change (.remove Gate.clusterName)] := by
  intro controller names other preview default custom steps steps'
  have same : (({} : Cache).atSyncs steps).map Cache.view =
      ((Cache.ofGates [preview]).atSyncs steps').map Cache.view := by decide +kernel
  obtain ⟨runs, upserted, removed, -, looks, replaced, selected⟩ :=
    outcomes_of_views [⟨["A"], ["a"], Table.ofList [(.default, ⟨["A"], []⟩)]⟩] ∅
  refine ⟨same, runs _ _ _ _ same, by decide +kernel, upserted other (by decide),
    removed "other" (by decide), looks _ _ rfl (by decide), replaced _ _ (by decide),
    selected _ rfl rfl⟩

end FlagsObserver

end FeatureFlags
