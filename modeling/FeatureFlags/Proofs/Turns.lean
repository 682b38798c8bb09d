import FeatureFlags.Controller
import FeatureFlags.Proofs.Tree.Merge
import Mathlib.Algebra.Ring.Nat

/-!
# A sync by its turns

The outcome of a sync as one equation, for observers of any kind: what they return, report
and announce when each is run once over the configuration observed, joined in the order of
registration.
-/

namespace FeatureFlags

namespace Trace

theorem append_eq (a b : Trace) :
    a ++ b = ⟨a.notices ++ b.notices, a.log ++ b.log, a.lookups + b.lookups⟩ := rfl

/-- Traces one after the other. -/
theorem foldl_append (traces : List Trace) (start : Trace) :
    traces.foldl (· ++ ·) start =
      ⟨start.notices ++ traces.flatMap (·.notices), start.log ++ traces.flatMap (·.log),
        start.lookups + (traces.map (·.lookups)).sum⟩ := by
  induction traces generalizing start with
  | nil => simp
  | cons trace rest ih =>
    rw [List.foldl_cons, ih, append_eq]
    simp only [List.append_assoc, List.flatMap_cons, List.map_cons, List.sum_cons, mk.injEq,
      true_and]
    omega

end Trace

namespace Controller

section Observers

variable (controller : Controller) (lister : Lister)

/-- The fragments of the observers laid over one another. -/
def layered : Tree :=
  (∅ : Tree).mergeAll (controller.observers.map fun observer =>
    (observer.observe lister controller.observed).1.config)

/-- What the observers announce, log and look up one after the other, the controller's line
    about the errors of each standing after it. -/
def observing : Trace where
  notices := controller.observers.flatMap fun observer =>
    (observer.observe lister controller.observed).2.notices
  log := controller.observers.flatMap fun observer =>
    let (observation, trace) := observer.observe lister controller.observed
    trace.log ++ if observation.errors = [] then []
      else [.observerErrors observer.name observation.errors.length]
  lookups := (controller.observers.map fun observer =>
    (observer.observe lister controller.observed).2.lookups).sum

/-- The errors of the observers one after the other. -/
def collected : List ObserveError :=
  controller.observers.flatMap fun observer =>
    (observer.observe lister controller.observed).1.errors

theorem merged_turns_eq : merged (controller.turns lister) = controller.layered lister := by
  rw [merged, layered, Tree.mergeAll, turns, List.foldl_map, List.foldl_map]

theorem errors_turns_eq :
    (controller.turns lister).flatMap (·.observation.errors) = controller.collected lister := by
  rw [turns, List.flatMap_map]
  rfl

theorem trace_turns_eq :
    (controller.turns lister).foldl (fun trace turn => trace ++ turn.fullTrace) ({} : Trace) =
      controller.observing lister := by
  have folded := Trace.foldl_append ((controller.turns lister).map Turn.fullTrace) {}
  rw [List.foldl_map] at folded
  rw [folded, turns, observing]
  simp [List.flatMap_map, Turn.fullTrace, Turn.log, Observation.isOk, Trace.append_eq,
    Function.comp_def]

theorem sync_of_same (same : controller.observed.same (controller.layered lister) = true) :
    controller.sync lister = ⟨controller, ⟨false, controller.collected lister⟩,
      controller.observing lister ++ { log := [.configUnchanged] }⟩ := by
  rw [sync, merged_turns_eq, errors_turns_eq, trace_turns_eq]
  exact if_pos same

theorem sync_of_not_same (differ : ¬ controller.observed.same (controller.layered lister) = true) :
    controller.sync lister =
      ⟨{ controller with observed := controller.layered lister },
        ⟨true, controller.collected lister⟩,
        controller.observing lister ++
          { notices := [.configChanged (controller.layered lister)] }⟩ := by
  rw [sync, merged_turns_eq, errors_turns_eq, trace_turns_eq]
  exact if_neg differ

end Observers

end Controller

end FeatureFlags
