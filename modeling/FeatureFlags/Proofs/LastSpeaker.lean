import FeatureFlags.Proofs.Json.Sameness
import FeatureFlags.Proofs.Turns

/-!
# The last one to speak

What a sync does with observers of any kind. Each of them runs once and over the
configuration observed before, never over what another one has just returned. At every path
the last observer whose fragment has something to say is the one that is heard, and the
configuration observed is replaced only by one that differs from it in more than the sign of
a zero.
-/

namespace FeatureFlags

namespace Controller

section Observers

variable (controller : Controller) (lister : Lister)

/-- Where no fragment has anything there is nothing after a sync. -/
theorem read_layered_of_silent {path : Path} (nonempty : path ≠ [])
    (silent : ∀ observer ∈ controller.observers,
      (observer.observe lister controller.observed).1.config.read path = .ok none) :
    (controller.layered lister).read path = .ok none := by
  apply Tree.read_mergeAll_of_silent (Tree.read_empty nonempty)
  intro fragment member
  obtain ⟨observer, there, rfl⟩ := List.mem_map.1 member
  exact silent observer there

theorem read_layered_of_speaks {path : Path} {before after : List Observer} {speaker : Observer}
    {value : Json} (split : controller.observers = before ++ speaker :: after)
    (silent : ∀ later ∈ after,
      (later.observe lister controller.observed).1.config.read path = .ok none)
    (speaks : (speaker.observe lister controller.observed).1.config.read path = .ok (some value))
    (plain : value.kind ≠ .map) :
    (controller.layered lister).read path = .ok (some value) := by
  rw [layered, split, List.map_append, List.map_cons]
  apply Tree.read_mergeAll_of_speaks plain speaks
  intro fragment member
  obtain ⟨later, there, rfl⟩ := List.mem_map.1 member
  exact silent later there

end Observers

/-- A sync runs every observer once, in the order of registration, and over the configuration
    observed before: the trace of the sync and its errors are those of these runs, one after the
    other, with the controller's own lines. Of the fragments laid over one another the last that
    has something at a path decides what is read there, if this is no map, and where none has
    anything there is nothing. The configuration observed becomes the merged one if the two are
    not the same, numbers taken by value, and stays untouched otherwise. -/
theorem sync_of_observers (controller : Controller) (lister : Lister) :
    let existing := controller.observed
    let run (observer : Observer) := observer.observe lister existing
    let merged := (controller.observers.map fun observer => (run observer).1.config).foldl
      Tree.merge ∅
    let sync := controller.sync lister
    sync.trace =
      { notices := (controller.observers.flatMap fun observer => (run observer).2.notices) ++
          if sync.report.changed then [.configChanged merged] else [],
        log := (controller.observers.flatMap fun observer => (run observer).2.log ++
            if (run observer).1.errors = [] then []
            else [.observerErrors observer.name (run observer).1.errors.length]) ++
          if sync.report.changed then [] else [.configUnchanged],
        lookups := (controller.observers.map fun observer => (run observer).2.lookups).sum } ∧
    sync.report.errors =
      (controller.observers.flatMap fun observer => (run observer).1.errors) ∧
    (∀ path ≠ [],
      (∀ observer ∈ controller.observers, (run observer).1.config.read path = .ok none) →
        merged.read path = .ok none) ∧
    (∀ path before speaker after value,
      controller.observers = before ++ speaker :: after →
      (∀ later ∈ after, (run later).1.config.read path = .ok none) →
      (run speaker).1.config.read path = .ok (some value) → value.kind ≠ .map →
        merged.read path = .ok (some value)) ∧
    (sync.report.changed = true ↔ existing.unsignZeros ≠ merged.unsignZeros) ∧
    sync.controller =
      { controller with observed := if sync.report.changed then merged else existing } := by
  intro existing run merged sync
  have silence : ∀ path ≠ [],
      (∀ observer ∈ controller.observers, (run observer).1.config.read path = .ok none) →
        merged.read path = .ok none :=
    fun path nonempty silent => controller.read_layered_of_silent lister nonempty silent
  have speech : ∀ path before speaker after value,
      controller.observers = before ++ speaker :: after →
      (∀ later ∈ after, (run later).1.config.read path = .ok none) →
      (run speaker).1.config.read path = .ok (some value) → value.kind ≠ .map →
        merged.read path = .ok (some value) := by
    intro path before speaker after value split silent speaks plain
    exact controller.read_layered_of_speaks lister split silent speaks plain
  by_cases same : existing.same merged = true
  · have quiet : sync = _ := controller.sync_of_same lister same
    rw [quiet]
    refine ⟨?_, rfl, silence, speech, ?_, rfl⟩
    · simp [Trace.append_eq, observing, run, existing]
    · simp [← Members.same_iff, same]
  · have loud : sync = _ := controller.sync_of_not_same lister same
    rw [loud]
    refine ⟨?_, rfl, silence, speech, ?_, rfl⟩
    · simp [Trace.append_eq, observing, run, existing, merged, layered, Tree.mergeAll]
    · simp [← Members.same_iff, same]

/-- Four fragments that collide. The second observer gives back what it is run over and announces
    it, which is the tree before and not what the first one returned. A number hides the map of
    the first fragment at `a`, and the last one puts a map there again. -/
theorem sync_of_observers_colliding :
    let initial := Tree.ofList [("b", .string "before"), ("c", .ofMembers [("z", .null)])]
    let echo : Observer := ⟨"echo", fun _ existing =>
      (⟨existing, []⟩, { notices := [.configChanged existing], lookups := 1 })⟩
    let controller : Controller :=
      ⟨[.fixed "first" ⟨Tree.ofList [("a", .ofMembers [("x", .bool true), ("y", .null)]),
            ("b", .string "first")], [.tree .emptyPath]⟩,
          echo,
          .fixed "third" ⟨Tree.ofList [("a", .number (.int 1))], []⟩,
          .fixed "fourth" ⟨Tree.ofList [("a", .ofMembers [("x", .bool false)])],
            [.unknownFeatureSet "X"]⟩], initial⟩
    let merged := (controller.observers.map fun observer =>
      (observer.observe (fun _ => .ok none) initial).1.config).foldl Tree.merge ∅
    let sync := controller.sync fun _ => .ok none
    merged.read ["a", "x"] = .ok (some (.bool false)) ∧
      merged.read ["b"] = .ok (some (.string "before")) ∧
      merged.read ["d", "e"] = .ok none ∧
      initial.unsignZeros ≠ merged.unsignZeros ∧ sync.report.changed = true ∧
      sync.controller.observed = merged ∧
      sync.report.errors = [.tree .emptyPath, .unknownFeatureSet "X"] ∧
      sync.trace.notices = [.configChanged initial, .configChanged merged] ∧
      sync.trace.lookups = 1 := by
  intro initial echo controller merged sync
  obtain ⟨trace, errors, silence, speech, differs, left⟩ :=
    controller.sync_of_observers fun _ => .ok none
  have differ : initial.unsignZeros ≠ merged.unsignZeros := by decide +kernel
  have changed : sync.report.changed = true := differs.2 differ
  have replaced : sync.controller.observed = merged := by
    rw [show sync.controller = _ from left, if_pos changed]
  have announced : sync.trace.notices = [.configChanged initial] ++ [.configChanged merged] := by
    rw [show sync.trace = _ from trace, if_pos changed]
    rfl
  have absent : ∀ observer ∈ controller.observers,
      (observer.observe (fun _ => .ok none) initial).1.config.read ["d", "e"] = .ok none := by
    decide +kernel
  refine ⟨?_, ?_, silence _ (by simp) absent, differ, changed, replaced, errors, announced, ?_⟩
  · exact speech ["a", "x"] [_, _, _] _ [] (.bool false) rfl (by simp) (by decide +kernel)
      (by decide)
  · exact speech ["b"] [_] _ [_, _] (.string "before") rfl (by decide +kernel) (by decide +kernel)
      (by decide)
  · rw [show sync.trace = _ from trace]
    rfl

end Controller

end FeatureFlags
