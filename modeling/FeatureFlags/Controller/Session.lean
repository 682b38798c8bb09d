import FeatureFlags.Controller.Schedule

/-!
# Sessions

What happens to a controller on a clock, step by step: loops are started and stopped, time
passes, syncs are made by hand, and in between what lookups answer becomes something else.
-/

namespace FeatureFlags

/-- A schedule, and what lookups answer at present. -/
structure Session where
  schedule : Schedule
  lister : Lister

namespace Session

/-- What can happen in a session. -/
inductive Step
  /-- From now on lookups answer like this. -/
  | answer (lister : Lister)
  /-- A sync by hand. -/
  | sync
  /-- A loop is started, with an interval in nanoseconds. -/
  | spawn (interval : Nat)
  /-- Some milliseconds pass. -/
  | advance (ms : Nat)
  /-- The loop of a handle is stopped, if it runs. -/
  | stop (handle : Nat)

/-- What a part of a session comes to. -/
structure Outcome where
  session : Session
  /-- What the syncs by hand returned. -/
  reports : List SyncReport := []
  trace : Trace := {}

def step (session : Session) : Step → Outcome
  | .answer lister => { session := { session with lister } }
  | .sync =>
    let (schedule, report, trace) := session.schedule.sync session.lister
    { session := { session with schedule }, reports := [report], trace }
  | .spawn interval =>
    let (schedule, trace) := session.schedule.spawn interval session.lister
    { session := { session with schedule }, trace }
  | .advance ms =>
    let (schedule, trace) := session.schedule.advance ms session.lister
    { session := { session with schedule }, trace }
  | .stop handle =>
    let (schedule, trace) := session.schedule.stop handle
    { session := { session with schedule }, trace }

/-- One step after the other. -/
def run (session : Session) : List Step → Outcome
  | [] => { session }
  | step :: rest =>
    let first := session.step step
    let others := first.session.run rest
    ⟨others.session, first.reports ++ others.reports, first.trace ++ others.trace⟩

end Session

end FeatureFlags
