import FeatureFlags.Proofs.Schedule.Syncs

/-!
# The life of a loop

A loop syncs when it is started and once for every period that it lives, over what lookups
answer at that instant, whatever else happens in the meantime: other loops, syncs by hand and
other answers (`Session.ofLoop_history_spawn`). Once it is stopped it makes no sync any more.
-/

namespace FeatureFlags

/-- The number of the tick served and what lookups answered, if it is one of the loop. -/
def Served.ofLoop? (handle : Nat) (served : Served) : Option (Nat × Lister) :=
  (served.tick.filter (·.loop.handle = handle)).map fun tick => (tick.number, served.lister)

namespace Session

/-- The milliseconds that a step takes. -/
def Step.elapsed : Step → Nat
  | .advance ms => ms
  | .answer _ | .sync | .spawn _ | .stop _ => 0

/-- The milliseconds that a part of a session takes. -/
def elapsed (steps : List Step) : Nat := (steps.map Step.elapsed).sum

/-- The syncs of a loop. -/
def ofLoop (handle : Nat) (history : List Served) : List (Nat × Lister) :=
  history.filterMap (·.ofLoop? handle)

/-- From which millisecond on lookups answer how. -/
def changes : Nat → List Step → List (Nat × Lister)
  | _, [] => []
  | now, .answer lister :: rest => (now, lister) :: changes now rest
  | now, step :: rest => changes (now + step.elapsed) rest

variable (session : Session)

/-- What lookups answer at an instant. The answers that are given from that very instant on
    come after what is due then. -/
def listerAt (steps : List Step) (instant : Nat) : Lister :=
  (((changes session.schedule.now steps).filter (·.1 * 1000000 < instant)).map
    (·.2)).getLastD session.lister

/-- The syncs that a loop of an interval owes if it is started now and lives that long. No period
    is shorter than a millisecond. -/
def owed (interval : Nat) (life : List Step) : List (Nat × Lister) :=
  let period := max 1000000 interval
  (List.range (elapsed life * 1000000 / period + 1)).map fun k =>
    (k, session.listerAt life (session.schedule.now * 1000000 + k * period))

/-! ## What a step leaves of the schedule -/

variable (step : Step)

/-- The schedule after a step, but for its controller. -/
def moved : Step → Schedule
  | .spawn interval => session.schedule.started interval
  | .advance ms => session.schedule.later ms
  | .stop handle => session.schedule.without handle
  | .answer _ | .sync => session.schedule

theorem schedule_step : ∃ controller,
    (session.step step).session.schedule = { session.moved step with controller } := by
  cases step with
  | answer | sync | spawn => exact ⟨_, rfl⟩
  | advance ms =>
    rw [Session.step, Schedule.advance_eq]
    exact ⟨_, rfl⟩
  | stop handle =>
    rw [Session.step, Schedule.stop_eq]
    exact ⟨_, rfl⟩

theorem now_step :
    (session.step step).session.schedule.now = session.schedule.now + step.elapsed := by
  obtain ⟨_, eq⟩ := session.schedule_step step
  rw [eq]
  cases step <;> rfl

theorem lister_step : (session.step step).session.lister =
    match step with
    | .answer lister => lister
    | _ => session.lister := by
  cases step <;> rfl

/-- A loop runs until it is stopped. -/
theorem running_step {loop : Loop} (running : loop ∈ session.schedule.loops)
    (kept : step ≠ .stop loop.handle) :
    loop ∈ (session.step step).session.schedule.loops := by
  obtain ⟨_, eq⟩ := session.schedule_step step
  rw [eq]
  cases step with
  | answer | sync | advance => exact running
  | spawn interval => exact List.mem_cons_of_mem _ running
  | stop handle =>
    have other : loop.handle ≠ handle := fun same => kept (same ▸ rfl)
    exact List.mem_filter.2 ⟨running, by simpa using other⟩

theorem running_run {loop : Loop} {life : List Step} (running : loop ∈ session.schedule.loops)
    (kept : .stop loop.handle ∉ life) :
    loop ∈ (session.run life).session.schedule.loops := by
  induction life generalizing session with
  | nil => exact running
  | cons step rest ih =>
    obtain ⟨now, later⟩ := not_or.1 (mt List.mem_cons.2 kept)
    exact ih _ (session.running_step step running (Ne.symm now)) later

/-- A handle that was given out and whose loop does not run any more. -/
structure Ended (session : Session) (handle : Nat) : Prop where
  issued : handle < session.schedule.spawned
  stopped : ∀ loop ∈ session.schedule.loops, loop.handle ≠ handle

variable {session} in
theorem Ended.stays {handle : Nat} (ended : session.Ended handle) (step : Step) :
    (session.step step).session.Ended handle := by
  obtain ⟨_, eq⟩ := session.schedule_step step
  constructor
  · rw [eq]
    cases step with
    | spawn interval => exact Nat.lt_succ_of_lt ended.issued
    | answer | sync | advance | stop => exact ended.issued
  · rw [eq]
    cases step with
    | answer | sync | advance => exact ended.stopped
    | spawn interval =>
      intro loop member
      rcases List.mem_cons.1 member with rfl | running
      · exact Nat.ne_of_gt ended.issued
      · exact ended.stopped loop running
    | stop _ => exact fun loop member => ended.stopped loop (List.mem_filter.1 member).1

theorem ended_stop {loop : Loop} (running : loop ∈ session.schedule.loops) :
    (session.step (.stop loop.handle)).session.Ended loop.handle := by
  obtain ⟨_, eq⟩ := session.schedule_step (.stop loop.handle)
  constructor
  · rw [eq]
    exact session.schedule.issued loop running
  · rw [eq]
    intro other member
    simpa using (List.mem_filter.1 member).2

/-! ## What lookups answer at an instant -/

theorem le_of_mem_changes {now : Nat} {steps : List Step} {change : Nat × Lister}
    (member : change ∈ changes now steps) : now ≤ change.1 := by
  induction steps generalizing now with
  | nil => cases member
  | cons step rest ih =>
    cases step with
    | answer lister =>
      rcases List.mem_cons.1 member with rfl | later
      · exact Nat.le_refl _
      · exact ih later
    | sync | spawn | advance | stop => exact Nat.le_trans (Nat.le_add_right ..) (ih member)

/-- At an instant that has come lookups answer as they do now. -/
theorem listerAt_of_le (steps : List Step) {instant : Nat}
    (come : instant ≤ session.schedule.now * 1000000) :
    session.listerAt steps instant = session.lister := by
  have none_before : (changes session.schedule.now steps).filter (·.1 * 1000000 < instant) =
      [] := by
    rw [List.filter_eq_nil_iff]
    intro change member
    have later := le_of_mem_changes member
    simp only [decide_eq_true_eq]
    omega
  rw [listerAt, none_before]
  rfl

/-- What lookups answer at an instant to come depends on what is left to do alone. -/
theorem listerAt_cons (rest : List Step) {instant : Nat}
    (ahead : session.schedule.now * 1000000 < instant) :
    session.listerAt (step :: rest) instant =
      (session.step step).session.listerAt rest instant := by
  rw [listerAt, listerAt, now_step, lister_step]
  cases step with
  | answer lister =>
    rw [changes, List.filter_cons_of_pos (by simpa using ahead)]
    rw [List.map_cons, List.getLastD_cons]
    rfl
  | sync | spawn | advance | stop => rfl

/-- While a step lasts lookups answer as they did before it. -/
theorem listerAt_of_passed (rest : List Step) {instant : Nat}
    (ahead : session.schedule.now * 1000000 < instant)
    (passed : instant ≤ (session.schedule.now + step.elapsed) * 1000000) :
    session.listerAt (step :: rest) instant = session.lister := by
  rw [listerAt_cons _ _ _ ahead, listerAt_of_le]
  · cases step with
    | answer lister =>
      rw [Step.elapsed] at passed
      omega
    | sync | spawn | advance | stop => rfl
  · rwa [now_step]

/-! ## The syncs of a loop -/

theorem ofLoop_cons_tick (handle : Nat) (tick : Tick) (lister : Lister) (rest : List Served) :
    ofLoop handle (⟨some tick, lister⟩ :: rest) =
      (if tick.loop.handle = handle then [(tick.number, lister)] else []) ++
        ofLoop handle rest := by
  by_cases own : tick.loop.handle = handle
  · simp [ofLoop, Served.ofLoop?, own]
  · simp [ofLoop, Served.ofLoop?, own]

theorem ofLoop_ticks (handle : Nat) (ticks : List Tick) (lister : Lister) :
    ofLoop handle (ticks.map (⟨some ·, lister⟩)) =
      (ticks.filter (·.loop.handle = handle)).map fun tick => (tick.number, lister) := by
  induction ticks with
  | nil => rfl
  | cons tick rest ih =>
    rw [List.map_cons, ofLoop_cons_tick, ih]
    by_cases own : tick.loop.handle = handle
    · simp [own]
    · simp [own]

theorem ofLoop_served_of_running {loop : Loop} (running : loop ∈ session.schedule.loops) :
    ofLoop loop.handle (session.served step) =
      (loop.numbersBetween session.schedule.now (session.schedule.now + step.elapsed)).map
        (·, session.lister) := by
  cases step with
  | answer | stop | sync => simp [served, ofLoop, Served.ofLoop?, Step.elapsed]
  | spawn interval =>
    have other : (session.schedule.nextLoop interval).handle ≠ loop.handle :=
      Nat.ne_of_gt (session.schedule.issued loop running)
    rw [served, ofLoop_cons_tick, if_neg other, Step.elapsed, Nat.add_zero,
      Loop.numbersBetween_self]
    rfl
  | advance ms =>
    rw [served, ofLoop_ticks, session.schedule.filter_due ms running, Loop.ticksBetween,
      List.map_map]
    rfl

theorem Ended.ofLoop_served {handle : Nat} (ended : session.Ended handle) :
    ofLoop handle (session.served step) = [] := by
  cases step with
  | answer | stop | sync => rfl
  | spawn interval =>
    have other : (session.schedule.nextLoop interval).handle ≠ handle :=
      Nat.ne_of_gt ended.issued
    rw [served, ofLoop_cons_tick, if_neg other]
    rfl
  | advance ms =>
    rw [served, ofLoop_ticks, session.schedule.filter_due_eq_nil ms ended.stopped, List.map_nil]

theorem ofLoop_append (handle : Nat) (first second : List Served) :
    ofLoop handle (first ++ second) = ofLoop handle first ++ ofLoop handle second :=
  List.filterMap_append

variable {session} in
/-- A loop that is stopped makes no sync any more. -/
theorem Ended.ofLoop_history {handle : Nat} (ended : session.Ended handle) (steps : List Step) :
    ofLoop handle (session.history steps) = [] := by
  induction steps generalizing session with
  | nil => rfl
  | cons step rest ih =>
    rw [history, ofLoop_append, ended.ofLoop_served, ih (ended.stays step), List.nil_append]

/-- A loop that runs makes the syncs that come due. -/
theorem ofLoop_history_of_running {loop : Loop} {life : List Step}
    (running : loop ∈ session.schedule.loops) (kept : .stop loop.handle ∉ life) :
    ofLoop loop.handle (session.history life) =
      (loop.numbersBetween session.schedule.now (session.schedule.now + elapsed life)).map
        fun k => (k, session.listerAt life (loop.instant k)) := by
  induction life generalizing session with
  | nil => simp [history, ofLoop, elapsed]
  | cons step rest ih =>
    obtain ⟨goes_on, later⟩ := not_or.1 (mt List.mem_cons.2 kept)
    have begun := session.schedule.begun loop running
    have next_begun : loop.started ≤ session.schedule.now + step.elapsed :=
      Nat.le_add_right_of_le begun
    have others := ih _ (session.running_step step running (Ne.symm goes_on)) later
    have total : session.schedule.now + elapsed (step :: rest) =
        session.schedule.now + step.elapsed + elapsed rest := by
      rw [elapsed, List.map_cons, List.sum_cons, ← elapsed, Nat.add_assoc]
    rw [now_step] at others
    -- What came due in the step met the answers of before, what comes due later those of after it.
    rw [history, ofLoop_append, ofLoop_served_of_running _ _ running, others, total,
      ← loop.numbersBetween_append (Nat.le_add_right ..) (Nat.le_add_right ..), List.map_append]
    congr 1
    · apply List.map_congr_left
      intro k member
      obtain ⟨ahead, passed⟩ :=
        (loop.mem_numbersBetween_iff begun (Nat.le_add_right ..)).1 member
      rw [session.listerAt_of_passed step rest ahead passed]
    · apply List.map_congr_left
      intro k member
      obtain ⟨ahead, -⟩ :=
        (loop.mem_numbersBetween_iff next_begun (Nat.le_add_right ..)).1 member
      have still_ahead : session.schedule.now * 1000000 < loop.instant k :=
        Nat.lt_of_le_of_lt (Nat.mul_le_mul_right _ (Nat.le_add_right ..)) ahead
      rw [session.listerAt_cons step rest still_ahead]

/-- A loop makes the syncs that it owes, until it is stopped at the earliest. -/
theorem ofLoop_history_spawn (interval : Nat) {life : List Step}
    (kept : .stop session.schedule.spawned ∉ life) :
    ofLoop session.schedule.spawned (session.history (.spawn interval :: life)) =
      session.owed interval life := by
  let loop := session.schedule.nextLoop interval
  have first : ofLoop loop.handle (session.served (.spawn interval)) = [(0, session.lister)] := by
    rw [served, ofLoop_cons_tick, if_pos rfl]
    rfl
  have running : loop ∈ (session.step (.spawn interval)).session.schedule.loops :=
    List.mem_cons_self
  have numbers : loop.numbersBetween session.schedule.now (session.schedule.now + elapsed life) =
      List.range' 1 (elapsed life * 1000000 / max 1000000 interval) :=
    loop.numbersBetween_started (elapsed life)
  have later := ofLoop_history_of_running _ running kept
  have at_start : session.listerAt life (session.schedule.now * 1000000) = session.lister :=
    session.listerAt_of_le life (Nat.le_refl _)
  rw [history, ofLoop_append, owed, List.range_eq_range', List.range'_succ, List.map_cons,
    Nat.zero_mul, Nat.add_zero, at_start, Nat.zero_add, ← numbers]
  exact congrArg₂ (· ++ ·) first later

/-- A loop that was stopped has made the syncs that it owed, and makes none any more. -/
theorem ofLoop_history_spawn_stop (interval : Nat) {life : List Step}
    (kept : .stop session.schedule.spawned ∉ life) (rest : List Step) :
    ofLoop session.schedule.spawned
        (session.history (.spawn interval :: life ++ .stop session.schedule.spawned :: rest)) =
      session.owed interval life := by
  let loop := session.schedule.nextLoop interval
  have running : loop ∈ (session.run (.spawn interval :: life)).session.schedule.loops :=
    running_run (session.step (.spawn interval)).session List.mem_cons_self kept
  have silent : ofLoop loop.handle ((session.run (.spawn interval :: life)).session.history
      (.stop loop.handle :: rest)) = [] :=
    (ended_stop _ running).ofLoop_history rest
  rw [history_append, ofLoop_append, session.ofLoop_history_spawn interval kept]
  exact (congrArg (session.owed interval life ++ ·) silent).trans (List.append_nil _)

end Session

end FeatureFlags
