import FeatureFlags.Lister.Handles
import Mathlib.Data.Finset.Card
import Mathlib.Data.List.Induction

/-!
# What a cache remembers

A cache is what its history has made of it, through whichever handles the changes came. Whether
it answers lookups is a matter of the last time it was filled as a whole or lost, and what it
keeps under a name a matter of the last change that concerned the name, whether it answered
lookups then or not.
-/

namespace FeatureFlags

/-! ## Histories -/

namespace CacheChange

/-- What a change settles about a name: which gate is kept under it from then on, if any. A
    change that does not concern the name settles nothing. -/
def settles? (name : String) : CacheChange → Option (Option Gate)
  | upsert gate => if gate.name = name then some (some gate) else none
  | remove other => if other = name then some none else none
  | replaceAll gates => some (gates.filter (·.name = name)).getLast?
  | markUnsynced => none

/-- The gate that the last change of a history that concerns a name leaves under it. -/
def lastSettled (history : List CacheChange) (name : String) : Option Gate :=
  (history.filterMap (·.settles? name)).getLast?.join

/-- A history in which the cache was filled as a whole, and not lost again since. -/
def Filled (history : List CacheChange) : Prop :=
  ∃ before gates after, history = before ++ replaceAll gates :: after ∧ markUnsynced ∉ after

theorem filled_concat (history : List CacheChange) (change : CacheChange) :
    Filled (history ++ [change]) ↔
      (∃ gates, change = replaceAll gates) ∨ (change ≠ markUnsynced ∧ Filled history) := by
  constructor
  · rintro ⟨before, gates, after, split, kept⟩
    rcases List.eq_nil_or_concat after with rfl | ⟨after, last, rfl⟩
    · obtain ⟨-, last⟩ := List.append_inj' split rfl
      exact .inl ⟨gates, List.singleton_inj.1 last⟩
    · rw [List.concat_eq_append, ← List.cons_append, ← List.append_assoc] at split
      obtain ⟨rfl, last⟩ := List.append_inj' split rfl
      obtain rfl := List.singleton_inj.1 last
      rw [List.concat_eq_append, List.mem_append, not_or] at kept
      refine .inr ⟨fun lost => kept.2 ?_, before, gates, after, rfl, kept.1⟩
      simp [lost]
  · rintro (⟨gates, rfl⟩ | ⟨other, before, gates, after, rfl, kept⟩)
    · exact ⟨history, gates, [], rfl, by simp⟩
    · exact ⟨before, gates, after ++ [change], by simp, by simp [kept, Ne.symm other]⟩

/-- A gate is settled under its own name alone. -/
theorem name_of_settles? {name : String} {change : CacheChange} {gate : Gate}
    (settled : change.settles? name = some (some gate)) : gate.name = name := by
  cases change with
  | upsert other =>
    rw [settles?] at settled
    split at settled
    · next same =>
      cases settled
      exact same
    · cases settled
  | remove other =>
    rw [settles?] at settled
    split at settled <;> cases settled
  | replaceAll gates =>
    have last : (gates.filter (·.name = name)).getLast? = some gate := Option.some.inj settled
    have member := List.mem_of_getLast? last
    simpa using (List.mem_filter.1 member).2
  | markUnsynced => cases settled

theorem name_of_lastSettled {name : String} {history : List CacheChange} {gate : Gate}
    (last : lastSettled history name = some gate) : gate.name = name := by
  have settled : (history.filterMap (·.settles? name)).getLast? = some (some gate) :=
    Option.join_eq_some_iff.1 last
  obtain ⟨change, -, here⟩ := List.mem_filterMap.1 (List.mem_of_getLast? settled)
  exact name_of_settles? here

end CacheChange

namespace Cache

open CacheChange

/-- One change: the names it concerns are settled by it, the others stay as they are. -/
theorem held?_apply (cache : Cache) (change : CacheChange) (name : String) :
    (cache.apply change).held? name = (change.settles? name).getD (cache.held? name) := by
  cases change with
  | upsert gate =>
    rw [apply, held?, Table.get?_insert, settles?, held?]
    by_cases same : gate.name = name
    · rw [if_pos same.symm, if_pos same, Option.getD_some]
    · rw [if_neg (Ne.symm same), if_neg same, Option.getD_none]
  | remove other =>
    rw [apply, held?, Table.get?_erase, settles?, held?]
    by_cases same : other = name
    · rw [if_pos same.symm, if_pos same, Option.getD_some]
    · rw [if_neg (Ne.symm same), if_neg same, Option.getD_none]
  | replaceAll gates => exact get?_gatesByName gates name
  | markUnsynced => rfl

/-- A whole history, by induction from its end. -/
theorem held?_foldl (history : List CacheChange) (name : String) :
    (history.foldl apply {}).held? name = lastSettled history name := by
  induction history using List.reverseRecOn with
  | nil => rfl
  | append_singleton history change ih =>
    rw [List.foldl_append, List.foldl_cons, List.foldl_nil, held?_apply, ih, lastSettled,
      lastSettled, List.filterMap_append]
    cases settled : change.settles? name with
    | none => simp [settled]
    | some gate => simp [settled]

theorem synced_foldl (history : List CacheChange) :
    (history.foldl apply {}).synced = true ↔ Filled history := by
  induction history using List.reverseRecOn with
  | nil => simp [Filled]
  | append_singleton history change ih =>
    rw [List.foldl_append, List.foldl_cons, List.foldl_nil, filled_concat, ← ih]
    cases change <;> simp [apply]

/-- The names under which gates are kept. Their number is the size. -/
theorem exists_names (cache : Cache) : ∃ names : Finset String,
    (∀ name, name ∈ names ↔ (cache.held? name).isSome) ∧ cache.size = names.card := by
  refine ⟨(cache.gates.entries.map Prod.fst).toFinset, fun name => ?_, ?_⟩
  · rw [held?, Table.get?, List.lookup_isSome_iff]
    simp
  · rw [List.toFinset_card_of_nodup cache.gates.distinct, List.length_map]
    rfl

end Cache

/-! ## Handles -/

namespace Handles

/-- The first handle on a cache that is new, or filled with gates. -/
def first (gates : Option (List Gate)) : Handles :=
  ({} : Handles).create ((gates.map Cache.ofGates).getD {})

/-- The handles after some steps. -/
def after (handles : Handles) (steps : List HandleStep) : Handles := steps.foldl apply handles

/-- Every step goes through a handle that there is by then. -/
def Accepts : Handles → List HandleStep → Prop
  | _, [] => True
  | handles, step :: rest => step.on < handles.count ∧ (handles.apply step).Accepts rest

variable {handles : Handles} {cache : Cache}

/-- Where there is one cache every handle stands for it. -/
theorem target_of_single (single : handles.caches = [cache]) {on : Nat}
    (there : on < handles.count) : handles.targets[on]? = some 0 := by
  have target : handles.targets[on]? = some handles.targets[on] :=
    List.getElem?_eq_getElem there
  have inside := handles.inside _ (List.getElem_mem there)
  rw [single, List.length_singleton] at inside
  rw [target, Option.some.injEq]
  omega

theorem cache?_of_single (single : handles.caches = [cache]) {on : Nat}
    (there : on < handles.count) : handles.cache? on = some cache := by
  rw [cache?, target_of_single single there, single]
  rfl

/-- A step through any handle changes the one cache there is, and a clone makes no other. -/
theorem caches_apply (single : handles.caches = [cache]) {step : HandleStep}
    (there : step.on < handles.count) :
    (handles.apply step).caches = [step.change?.toList.foldl Cache.apply cache] := by
  cases step with
  | clone on => exact single
  | change on made =>
    have target : handles.targets[on]? = some 0 := target_of_single single there
    simp only [apply, change, target, single]
    rfl

/-- So the cache has seen all changes, whichever handles they came through. -/
theorem caches_after (single : handles.caches = [cache]) {steps : List HandleStep}
    (accepted : handles.Accepts steps) :
    (handles.after steps).caches =
      [(steps.filterMap HandleStep.change?).foldl Cache.apply cache] := by
  induction steps generalizing handles cache with
  | nil => exact single
  | cons step rest ih =>
    obtain ⟨there, later⟩ := accepted
    have changed := ih (caches_apply single there) later
    rw [after, List.foldl_cons, ← after, changed]
    cases made : step.change? with
    | none => simp [made]
    | some change => simp [made]

/-- One cache, new or filled with gates, after any steps through its first handle and the clones
    of it. Whatever handle is asked, it does not answer lookups exactly if the cache was not
    filled as a whole since it was made or lost; otherwise it answers with what the last change
    that concerned the name has left, those included that came while it did not answer. A removal
    hands that back in either state. Telling of one gate leaves the cache filled or lost as it
    was, every gate is kept under its own name, and the size is the number of the names. -/
theorem cache_of_history (start : Option (List Gate)) {steps : List HandleStep}
    (accepted : (first start).Accepts steps) {on : Nat}
    (there : on < ((first start).after steps).count) :
    let history := (start.map .replaceAll).toList ++ steps.filterMap HandleStep.change?
    ∃ cache, ((first start).after steps).cache? on = some cache ∧
      (∀ name, cache.get name = .error .notSynced ↔
        ¬ ∃ before gates after, history = before ++ .replaceAll gates :: after ∧
          .markUnsynced ∉ after) ∧
      (∀ name, cache.get name ≠ .error .notSynced →
        cache.get name = .ok (CacheChange.lastSettled history name)) ∧
      (∀ name, cache.handedBack (.remove name) = CacheChange.lastSettled history name) ∧
      (∀ gate, (cache.apply (.upsert gate)).synced = cache.synced) ∧
      (∀ name, (cache.apply (.remove name)).synced = cache.synced) ∧
      (∀ name gate, cache.held? name = some gate → gate.name = name) ∧
      ∃ names : Finset String,
        (∀ name, name ∈ names ↔ (CacheChange.lastSettled history name).isSome) ∧
        cache.size = names.card := by
  intro history
  have single : (first start).caches = [(start.map Cache.ofGates).getD {}] := rfl
  have told : (steps.filterMap HandleStep.change?).foldl Cache.apply
      ((start.map Cache.ofGates).getD {}) = history.foldl Cache.apply {} := by
    rw [List.foldl_append]
    cases start <;> rfl
  have caches := caches_after single accepted
  rw [told] at caches
  have kept : ∀ name, (history.foldl Cache.apply {}).held? name =
      CacheChange.lastSettled history name := Cache.held?_foldl history
  refine ⟨_, cache?_of_single caches there, ?_, ?_, kept, fun gate => rfl, fun name => rfl, ?_, ?_⟩
  · intro name
    rw [← CacheChange.Filled, ← Cache.synced_foldl, Cache.get]
    split
    · next synced => simp [synced]
    · next lost => simp [lost]
  · intro name answered
    rw [Cache.get] at answered ⊢
    split
    · rw [kept]
    · next lost => exact absurd (if_neg lost) answered
  · intro name gate found
    rw [kept] at found
    exact CacheChange.name_of_lastSettled found
  · obtain ⟨names, member, size⟩ := (history.foldl Cache.apply {}).exists_names
    exact ⟨names, fun name => by rw [member, kept], size⟩

/-- A cache filled with two gates of one name and one of another is lost, told of a third and
    relieved of the other one while it does not answer, through three handles. The second handle
    shows all of it. -/
theorem cache_of_history_lost :
    let preview := Gate.cluster .techPreviewNoUpgrade
    let added := Gate.ofSet "added" .latencySensitive
    let start := some [Gate.cluster .default, Gate.ofSet "other" .default, preview]
    let steps : List HandleStep := [.clone 0, .change 1 .markUnsynced, .clone 1,
      .change 2 (.upsert added), .change 0 (.remove "other")]
    (first start).Accepts steps ∧ 1 < ((first start).after steps).count ∧
      ∃ cache, ((first start).after steps).cache? 1 = some cache ∧
        cache.get "cluster" = .error .notSynced ∧
        cache.handedBack (.remove "cluster") = some preview ∧
        cache.handedBack (.remove "added") = some added ∧
        cache.handedBack (.remove "other") = none ∧
        (cache.apply (.upsert added)).synced = cache.synced ∧ cache.size = 2 := by
  intro preview added start steps
  have accepted : (first start).Accepts steps :=
    ⟨by decide, by decide, by decide, by decide, by decide, trivial⟩
  have there : 1 < ((first start).after steps).count := by decide
  have size : (((first start).after steps).cache? 1).map Cache.size = some 2 := by decide +kernel
  obtain ⟨cache, shown, answers, -, handed, upserted, -⟩ := cache_of_history start accepted there
  rw [shown] at size
  refine ⟨accepted, there, cache, shown, (answers _).2 ?_, ?_, ?_, ?_, upserted added,
    Option.some.inj size⟩
  · intro filled
    have synced := (Cache.synced_foldl _).2 filled
    exact absurd synced (by decide)
  · exact (handed "cluster").trans (by decide +kernel)
  · exact (handed "added").trans (by decide +kernel)
  · exact (handed "other").trans (by decide +kernel)

end Handles

end FeatureFlags
