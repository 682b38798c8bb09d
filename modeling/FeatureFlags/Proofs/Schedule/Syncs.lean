import FeatureFlags.Proofs.Schedule.Ticks
import FeatureFlags.Proofs.Sync

/-!
# The syncs of a session

A session does to its controller what its syncs do, one after the other: those made by hand
and those of the ticks it serves. All else that happens in a session leaves the controller as
it is, announces nothing and looks up nothing (`Session.runs_run`). The syncs of an advance
depend on how many ticks come due and on nothing else of the schedule, so an advance may be
split (`Session.run_advances`).
-/

namespace FeatureFlags

namespace Trace

theorem append_assoc (a b c : Trace) : a ++ b ++ c = a ++ (b ++ c) := by
  simp only [append_eq, List.append_assoc, Nat.add_assoc]

@[simp] theorem empty_append (a : Trace) : ({} : Trace) ++ a = a := by
  simp [append_eq]

end Trace

namespace Controller

theorem after_append (controller : Controller) (first second : List Lister) :
    controller.after (first ++ second) = (controller.after first).after second := by
  rw [after, List.foldl_append]
  rfl

theorem syncs_append (controller : Controller) (first second : List Lister) :
    controller.syncs (first ++ second) =
      controller.syncs first ++ (controller.after first).syncs second := by
  induction first generalizing controller with
  | nil => rfl
  | cons lister rest ih =>
    rw [List.cons_append, syncs, ih, syncs, List.cons_append]
    rfl

/-- A piece of work does to a controller what a run of syncs does. -/
structure Runs (controller : Controller) (listers : List Lister) (left : Controller)
    (trace : Trace) : Prop where
  controller_eq : left = controller.after listers
  notices_eq : trace.notices = (controller.syncs listers).flatMap (·.trace.notices)
  lookups_eq : trace.lookups = ((controller.syncs listers).map (·.trace.lookups)).sum

namespace Runs

/-- Lines of the log alone are no sync. -/
theorem log (controller : Controller) (lines : List LogEntry) :
    controller.Runs [] controller { log := lines } :=
  ⟨rfl, rfl, rfl⟩

theorem sync (controller : Controller) (lister : Lister) :
    controller.Runs [lister] (controller.sync lister).controller
      (controller.sync lister).trace where
  controller_eq := rfl
  notices_eq := by simp [syncs]
  lookups_eq := by simp [syncs]

theorem append {controller middle left : Controller} {first second : List Lister}
    {trace trace' : Trace} (before : controller.Runs first middle trace)
    (following : middle.Runs second left trace') :
    controller.Runs (first ++ second) left (trace ++ trace') where
  controller_eq := by rw [after_append, ← before.controller_eq, following.controller_eq]
  notices_eq := by
    rw [syncs_append, ← before.controller_eq, List.flatMap_append, ← before.notices_eq,
      ← following.notices_eq, Trace.append_eq]
  lookups_eq := by
    rw [syncs_append, ← before.controller_eq, List.map_append, List.sum_append,
      ← before.lookups_eq, ← following.lookups_eq, Trace.append_eq]

end Runs

/-- What the syncs of loops leave behind: each logs its errors once more. -/
def looped (controller : Controller) : List Lister → Trace
  | [] => {}
  | lister :: rest =>
    let done := controller.sync lister
    done.trace ++ { log := done.report.errors.map .observationFailed } ++
      done.controller.looped rest

theorem looped_append (controller : Controller) (first second : List Lister) :
    controller.looped (first ++ second) =
      controller.looped first ++ (controller.after first).looped second := by
  induction first generalizing controller with
  | nil => exact (Trace.empty_append _).symm
  | cons lister rest ih =>
    rw [List.cons_append, looped, ih, looped, Trace.append_assoc _ (looped _ rest)]
    rfl

theorem runs_looped (controller : Controller) (listers : List Lister) :
    controller.Runs listers (controller.after listers) (controller.looped listers) := by
  induction listers generalizing controller with
  | nil => exact Runs.log controller []
  | cons lister rest ih =>
    have first := (Runs.sync controller lister).append (Runs.log _
      ((controller.sync lister).report.errors.map .observationFailed))
    exact first.append (ih (controller.sync lister).controller)

end Controller

namespace Schedule

variable (schedule : Schedule)

/-- The ticks served come to syncs of the controller, as many as there are ticks. -/
theorem serve_eq (lister : Lister) (ticks : List Tick) :
    schedule.serve lister ticks =
      let listers := List.replicate ticks.length lister
      ({ schedule with controller := schedule.controller.after listers },
        schedule.controller.looped listers) := by
  induction ticks generalizing schedule with
  | nil => rfl
  | cons tick rest ih =>
    simp only [serve, ih]
    rfl

theorem advance_eq (ms : Nat) (lister : Lister) :
    schedule.advance ms lister =
      let listers := List.replicate (schedule.due ms).length lister
      ({ schedule.later ms with controller := schedule.controller.after listers },
        schedule.controller.looped listers) := by
  rw [advance, serve_eq]
  rfl

theorem later_later (a b : Nat) : (schedule.later a).later b = schedule.later (a + b) := by
  simp [later, Nat.add_assoc]

/-- A loop that does not run is stopped in vain. -/
theorem stop_eq (handle : Nat) :
    schedule.stop handle = (schedule.without handle,
      { log := if schedule.loops.any (·.handle = handle) then [.loopStopped] else [] }) := by
  rw [stop]
  split
  · rfl
  · next stopped =>
    have kept : schedule.loops.filter (·.handle ≠ handle) = schedule.loops := by
      rw [List.filter_eq_self]
      intro loop running
      simp only [List.any_eq_true, decide_eq_true_eq, not_exists, not_and] at stopped
      simpa using stopped loop running
    simp only [without, kept]

/-- Nothing comes due in no time. -/
theorem advance_zero (lister : Lister) : schedule.advance 0 lister = (schedule, {}) := by
  have none_due : schedule.due 0 = [] := by
    rw [List.eq_nil_iff_forall_not_mem]
    intro tick member
    have inside := ((schedule.mem_due_iff 0).1 member).2
    omega
  rw [advance_eq, none_due]
  rfl

/-- An advance is the same as two that take as long. -/
theorem advance_add (a b : Nat) (lister : Lister) :
    schedule.advance (a + b) lister =
      let first := schedule.advance a lister
      let second := first.1.advance b lister
      (second.1, first.2 ++ second.2) := by
  have number : (schedule.due (a + b)).length =
      (schedule.due a).length + ((schedule.later a).due b).length := by
    rw [(schedule.due_add a b).length_eq, List.length_append]
  simp only [advance_eq, number, List.replicate_add, Controller.after_append,
    Controller.looped_append, ← later_later]
  rfl

end Schedule

/-- A sync of a session: the tick it serves, if it is not made by hand, and what lookups
    answer then. -/
structure Served where
  tick : Option Tick
  lister : Lister

namespace Session

variable (session : Session)

/-- The syncs that a step makes. -/
def served : Step → List Served
  | .answer _ | .stop _ => []
  | .sync => [⟨none, session.lister⟩]
  | .spawn interval => [⟨some ⟨session.schedule.nextLoop interval, 0⟩, session.lister⟩]
  | .advance ms => (session.schedule.due ms).map (⟨some ·, session.lister⟩)

/-- The syncs of a part of a session, in order. -/
def history (session : Session) : List Step → List Served
  | [] => []
  | step :: rest => session.served step ++ (session.step step).session.history rest

/-- What each sync of a part of a session does. -/
def syncs (steps : List Step) : List Sync :=
  session.schedule.controller.syncs ((session.history steps).map (·.lister))

theorem history_append (first second : List Step) :
    session.history (first ++ second) =
      session.history first ++ (session.run first).session.history second := by
  induction first generalizing session with
  | nil => rfl
  | cons step rest ih =>
    rw [List.cons_append, history, ih, history, List.append_assoc]
    rfl

theorem run_append (first second : List Step) :
    session.run (first ++ second) =
      let before := session.run first
      let others := before.session.run second
      ⟨others.session, before.reports ++ others.reports, before.trace ++ others.trace⟩ := by
  induction first generalizing session with
  | nil => simp [run]
  | cons step rest ih =>
    rw [List.cons_append, run, ih]
    simp only [run, List.append_assoc, Trace.append_assoc]

theorem runs_step (step : Step) :
    session.schedule.controller.Runs ((session.served step).map (·.lister))
      (session.step step).session.schedule.controller (session.step step).trace := by
  cases step with
  | answer lister => exact .log _ _
  | sync => exact .sync _ _
  | spawn interval =>
    have started := Controller.Runs.log session.schedule.controller
      [.loopStarted session.schedule.controller.observers.length
        (session.schedule.nextLoop interval).periodMs]
    have first := (Controller.Runs.sync session.schedule.controller session.lister).append
      (.log _ ((session.schedule.controller.sync session.lister).report.errors.map
        .observationFailed))
    exact started.append first
  | advance ms =>
    have listers : ((session.served (.advance ms)).map (·.lister)) =
        List.replicate (session.schedule.due ms).length session.lister := by
      rw [served, List.map_map]
      exact List.map_const' ..
    rw [listers, step, Schedule.advance_eq]
    exact Controller.runs_looped _ _
  | stop handle =>
    rw [step, Schedule.stop_eq]
    exact .log _ _

/-- A session comes to its syncs. -/
theorem runs_run (steps : List Step) :
    session.schedule.controller.Runs ((session.history steps).map (·.lister))
      (session.run steps).session.schedule.controller (session.run steps).trace := by
  induction steps generalizing session with
  | nil => exact .log _ _
  | cons step rest ih =>
    rw [history, List.map_append]
    exact (session.runs_step step).append (ih (session.step step).session)

/-- Several advances with nothing in between are one as long as all of them. -/
theorem run_advances (parts : List Nat) :
    session.run (parts.map .advance) = session.step (.advance parts.sum) := by
  induction parts generalizing session with
  | nil => simp [run, step, Schedule.advance_zero]
  | cons ms rest ih =>
    rw [List.map_cons, run, ih, List.sum_cons]
    simp only [step, Schedule.advance_add, List.append_nil]

theorem run_advances_between (before : List Step) (parts : List Nat) (after : List Step) :
    session.run (before ++ parts.map .advance ++ after) =
      session.run (before ++ .advance parts.sum :: after) := by
  rw [List.append_assoc, run_append, run_append _ before]
  simp only [run_append _ (parts.map .advance), run_advances]
  rfl

end Session

end FeatureFlags
