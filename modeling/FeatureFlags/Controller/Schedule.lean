import FeatureFlags.Controller

/-!
# Loops on a clock

A controller synced in loops. A loop syncs when it is started and then at every
multiple of its period. Time passes in whole milliseconds; periods are counted in
nanoseconds, and a tick is served in the advance of the clock in which it comes due,
a tick at the very end of the advance included. Every loop has a handle of its own,
by which it can be stopped at any time.
-/

namespace FeatureFlags

/-- The shortest period of a loop, in nanoseconds. -/
def Loop.minPeriod : Nat := 1000000

/-- A loop: its handle, its period in nanoseconds, and the millisecond it was started at. -/
structure Loop where
  handle : Nat
  period : Nat
  started : Nat
  raised : Loop.minPeriod ≤ period
  deriving DecidableEq

/-- The tick of a loop that comes `number` periods after its start. -/
structure Tick where
  loop : Loop
  number : Nat
  deriving DecidableEq

namespace Loop

/-- The loop of an interval, which is raised to the shortest period. -/
def ofInterval (handle interval started : Nat) : Loop where
  handle := handle
  period := max minPeriod interval
  started := started
  raised := Nat.le_max_left ..

def periodMs (loop : Loop) : Nat := loop.period / 1000000

/-- The nanosecond at which a tick comes due. -/
def instant (loop : Loop) (number : Nat) : Nat := loop.started * 1000000 + number * loop.period

/-- How many ticks have come due by a time, the one at the start not counted. -/
def ticksBy (loop : Loop) (time : Nat) : Nat := (time - loop.started) * 1000000 / loop.period

/-- The numbers of the ticks that come due after one time and by another. -/
def numbersBetween (loop : Loop) (after by_ : Nat) : List Nat :=
  let served := loop.ticksBy after
  List.range' (served + 1) (loop.ticksBy by_ - served)

/-- The ticks that come due after one time and by another. -/
def ticksBetween (loop : Loop) (after by_ : Nat) : List Tick :=
  (loop.numbersBetween after by_).map (⟨loop, ·⟩)

end Loop

/-- The nanosecond at which a tick comes due. -/
def Tick.time (tick : Tick) : Nat := tick.loop.instant tick.number

/-- A controller, the time, and the loops that run, the last one started first. -/
structure Schedule where
  controller : Controller
  now : Nat := 0
  loops : List Loop := []
  /-- How many loops have been started, which is the handle of the next one. -/
  spawned : Nat := 0
  distinct : (loops.map (·.handle)).Nodup := by exact List.nodup_nil
  issued : ∀ loop ∈ loops, loop.handle < spawned := by exact List.forall_mem_nil _
  begun : ∀ loop ∈ loops, loop.started ≤ now := by exact List.forall_mem_nil _

namespace Schedule

/-- One sync of the controller. -/
def sync (schedule : Schedule) (lister : Lister) : Schedule × SyncReport × Trace :=
  let done := schedule.controller.sync lister
  ({ schedule with controller := done.controller }, done.report, done.trace)

/-- One sync of a loop, which logs every error. -/
def tick (schedule : Schedule) (lister : Lister) : Schedule × Trace :=
  let (schedule, report, trace) := schedule.sync lister
  (schedule, trace ++ { log := report.errors.map .observationFailed })

/-- A sync of a loop for each of the ticks. -/
def serve (schedule : Schedule) (lister : Lister) : List Tick → Schedule × Trace
  | [] => (schedule, {})
  | _ :: rest =>
    let (schedule, trace) := schedule.tick lister
    let (schedule, more) := schedule.serve lister rest
    (schedule, trace ++ more)

/-- The loop that would be started now. -/
def nextLoop (schedule : Schedule) (interval : Nat) : Loop :=
  .ofInterval schedule.spawned interval schedule.now

/-- The schedule with one loop more. -/
def started (schedule : Schedule) (interval : Nat) : Schedule where
  controller := schedule.controller
  now := schedule.now
  loops := schedule.nextLoop interval :: schedule.loops
  spawned := schedule.spawned + 1
  distinct := by
    have fresh : schedule.spawned ∉ schedule.loops.map (·.handle) := by
      intro member
      obtain ⟨loop, running, same⟩ := List.mem_map.1 member
      exact Nat.ne_of_lt (schedule.issued loop running) same
    exact List.nodup_cons.2 ⟨fresh, schedule.distinct⟩
  issued := by
    intro loop member
    rcases List.mem_cons.1 member with rfl | running
    · exact Nat.lt_succ_self _
    · exact Nat.lt_succ_of_lt (schedule.issued loop running)
  begun := by
    intro loop member
    rcases List.mem_cons.1 member with rfl | running
    · exact Nat.le_refl _
    · exact schedule.begun loop running

/-- The schedule without the loop of a handle. -/
def without (schedule : Schedule) (handle : Nat) : Schedule where
  controller := schedule.controller
  now := schedule.now
  loops := schedule.loops.filter (·.handle ≠ handle)
  spawned := schedule.spawned
  distinct := schedule.distinct.sublist (List.filter_sublist.map _)
  issued := fun loop member => schedule.issued loop (List.mem_filter.1 member).1
  begun := fun loop member => schedule.begun loop (List.mem_filter.1 member).1

/-- The schedule some milliseconds later. -/
def later (schedule : Schedule) (ms : Nat) : Schedule :=
  { schedule with
    now := schedule.now + ms
    begun := fun loop member => Nat.le_add_right_of_le (schedule.begun loop member) }

/-- A loop is started, and syncs at once. -/
def spawn (schedule : Schedule) (interval : Nat) (lister : Lister) : Schedule × Trace :=
  let periodMs := (schedule.nextLoop interval).periodMs
  let started := LogEntry.loopStarted schedule.controller.observers.length periodMs
  let (schedule, trace) := (schedule.started interval).tick lister
  (schedule, { log := [started] } ++ trace)

/-- The ticks that come due in the next milliseconds, loop by loop. -/
def dueByLoop (schedule : Schedule) (ms : Nat) : List Tick :=
  schedule.loops.flatMap (·.ticksBetween schedule.now (schedule.now + ms))

/-- The ticks that come due in the next milliseconds, in the order of time. -/
def due (schedule : Schedule) (ms : Nat) : List Tick :=
  (schedule.dueByLoop ms).mergeSort fun a b => a.time ≤ b.time

/-- Some milliseconds pass while the lister answers the same. -/
def advance (schedule : Schedule) (ms : Nat) (lister : Lister) : Schedule × Trace :=
  (schedule.later ms).serve lister (schedule.due ms)

/-- The loop of a handle is stopped, if it runs. -/
def stop (schedule : Schedule) (handle : Nat) : Schedule × Trace :=
  if schedule.loops.any (·.handle = handle) then
    (schedule.without handle, { log := [.loopStopped] })
  else (schedule, {})

/-- All loops are stopped. -/
def stopAll (schedule : Schedule) : Schedule × Trace :=
  ({ controller := schedule.controller, now := schedule.now, spawned := schedule.spawned },
    { log := schedule.loops.map fun _ => .loopStopped })

end Schedule

end FeatureFlags
