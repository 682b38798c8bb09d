import FeatureFlags.Proofs.Schedule.Lives

/-!
# Loops on schedule, and quiet between changes

Over paths apart an observer offers after a sync what it offered at it, so a sync over the same
answers once more leaves the tree as it is and announces nothing. However often the loops of a
session sync, between two changes of what lookups answer only the first sync can be heard or
seen.
-/

namespace FeatureFlags

/-- A sync that leaves the controller as it is and announces nothing. -/
structure Sync.Quiet (controller : Controller) (sync : Sync) : Prop where
  controller_eq : sync.controller = controller
  unchanged : sync.report.changed = false
  silent : sync.trace.notices = []

namespace FlagsObserver

section Apart

variable {observers : List FlagsObserver} (nonempty : ∀ observer ∈ observers, observer.path ≠ [])
  (apart : (observers.map (·.path)).Pairwise Path.Apart)

include nonempty apart in
/-- Over paths apart an observer offers after a sync what it offered at it. -/
theorem offer_publish {observer : FlagsObserver} (member : observer ∈ observers)
    (lister : Lister) (existing : Tree) :
    observer.offer lister (publish observers lister existing) =
      observer.offer lister existing := by
  have read := listAt_publish_of_apart nonempty apart member lister existing
  have same_list : (observer.offer lister (publish observers lister existing)).list =
      (observer.offer lister existing).list := by
    by_cases derives : observer.Derives lister
    · exact offer_list_of_derives derives _ _
    · rw [offer_list_of_not_derives derives, read]
  exact congrArg (Offer.mk observer.path) same_list

include nonempty apart in
theorem publish_publish (lister : Lister) (existing : Tree) :
    publish observers lister (publish observers lister existing) =
      publish observers lister existing := by
  have same_offers : (observers.map fun observer =>
      observer.offer lister (publish observers lister existing)) =
      observers.map fun observer => observer.offer lister existing :=
    List.map_congr_left fun observer member =>
      offer_publish nonempty apart member lister existing
  exact congrArg Tree.stack same_offers

include nonempty apart in
theorem notices_observe_publish {observer : FlagsObserver} (member : observer ∈ observers)
    (lister : Lister) (existing : Tree) :
    (observer.observe lister (publish observers lister existing)).2.notices = [] := by
  rw [notices_observe (nonempty observer member)]
  cases derived : observer.derive lister with
  | error failure => rfl
  | ok flags =>
    have current : observer.currentFlags (publish observers lister existing) = flags := by
      rw [currentFlags_eq, listAt_publish_of_apart nonempty apart member,
        offer_list_of_derive derived, Option.getD_some]
    simp only [current, if_pos]

include nonempty apart in
/-- A sync over the same answers as the one before is quiet. -/
theorem quiet_sync (lister : Lister) (existing : Tree) :
    let left := Controller.ofFlags observers (publish observers lister existing)
    (left.sync lister).Quiet left := by
  intro left
  have settled := publish_publish nonempty apart lister existing
  obtain ⟨controller, report, notices⟩ :=
    Controller.sync_ofFlags observers (publish observers lister existing) lister
  rw [settled] at controller report notices
  refine ⟨controller, by simp [left, report], ?_⟩
  rw [notices, if_pos rfl, List.append_nil, List.flatMap_eq_nil_iff]
  exact fun observer member => notices_observe_publish nonempty apart member lister existing

include nonempty apart in
theorem quiet_syncs (lister : Lister) (existing : Tree) {listers : List Lister}
    (unchanged : ∀ other ∈ listers, other = lister) :
    let left := Controller.ofFlags observers (publish observers lister existing)
    ∀ sync ∈ left.syncs listers, sync.Quiet left := by
  intro left
  have quiet := quiet_sync nonempty apart lister existing
  induction listers with
  | nil => exact fun sync member => absurd member List.not_mem_nil
  | cons other rest ih =>
    obtain rfl : other = lister := unchanged other List.mem_cons_self
    intro sync member
    rw [Controller.syncs, quiet.controller_eq] at member
    rcases List.mem_cons.1 member with rfl | later
    · exact quiet
    · exact ih (fun other there => unchanged other (List.mem_cons_of_mem _ there)) sync later

end Apart

end FlagsObserver

namespace Session

variable (session : Session)

/-- Unless they come to answer otherwise, lookups answer the same at all syncs. -/
theorem lister_of_mem_history {steps : List Step} (unanswered : ∀ lister, .answer lister ∉ steps)
    {served : Served} (member : served ∈ session.history steps) :
    served.lister = session.lister := by
  induction steps generalizing session with
  | nil => cases member
  | cons step rest ih =>
    have first : ∀ lister, step ≠ .answer lister := fun lister same =>
      unanswered lister (same ▸ List.mem_cons_self)
    have same_lister : (session.step step).session.lister = session.lister := by
      rw [lister_step]
      cases step with
      | answer lister => exact absurd rfl (first lister)
      | sync | spawn | advance | stop => rfl
    rcases List.mem_append.1 member with now | later
    · cases step with
      | answer | stop => cases now
      | sync | spawn => rw [List.mem_singleton.1 now]
      | advance ms =>
        obtain ⟨tick, -, rfl⟩ := List.mem_map.1 now
        rfl
    · rw [← same_lister]
      exact ih _ (fun lister there => unanswered lister (List.mem_cons_of_mem _ there)) later

/-- Between two changes of what lookups answer all syncs but the first are quiet. -/
theorem quiet_of_syncs {observers : List FlagsObserver} {existing : Tree}
    (flags : session.schedule.controller = .ofFlags observers existing)
    (nonempty : ∀ observer ∈ observers, observer.path ≠ [])
    (apart : (observers.map (·.path)).Pairwise Path.Apart) {steps : List Step}
    (unanswered : ∀ lister, .answer lister ∉ steps) {first : Sync} {others : List Sync}
    (syncs : session.syncs steps = first :: others) :
    ∀ sync ∈ others, sync.Quiet first.controller := by
  rw [Session.syncs] at syncs
  cases listers : (session.history steps).map (·.lister) with
  | nil =>
    rw [listers] at syncs
    cases syncs
  | cons lister rest =>
    have unchanged : ∀ other ∈ lister :: rest, other = session.lister := by
      intro other member
      obtain ⟨served, there, rfl⟩ := List.mem_map.1 (listers ▸ member)
      exact session.lister_of_mem_history unanswered there
    obtain rfl : lister = session.lister := unchanged lister List.mem_cons_self
    rw [listers, flags, Controller.syncs, Controller.controller_sync] at syncs
    obtain ⟨rfl, rfl⟩ := List.cons.inj syncs
    rw [Controller.controller_sync]
    exact FlagsObserver.quiet_syncs nonempty apart session.lister existing
      fun other member => unchanged other (List.mem_cons_of_mem _ member)

/-- A session of flag observers goes on with the same observers. -/
theorem exists_controller_run {observers : List FlagsObserver} {existing : Tree}
    (flags : session.schedule.controller = .ofFlags observers existing) (steps : List Step) :
    ∃ t, (session.run steps).session.schedule.controller = .ofFlags observers t := by
  rw [(session.runs_run steps).controller_eq, flags]
  exact Controller.exists_after_eq observers existing _

/-- Whatever happens in a session, its controller comes to a run of syncs, those of the ticks
    of its loops and those made by hand. A loop makes one sync when it is started and one for
    every full period it lives, each over what lookups answer at that instant, and none after
    it was stopped. Advances with nothing in between are one as long as all of them. With flag
    observers over paths apart, between two changes of what lookups answer only the first sync
    announces anything or leaves another tree. -/
theorem loops_on_schedule :
    (∀ steps, session.schedule.controller.Runs ((session.history steps).map (·.lister))
      (session.run steps).session.schedule.controller (session.run steps).trace) ∧
    (∀ interval life, .stop session.schedule.spawned ∉ life →
      ofLoop session.schedule.spawned (session.history (.spawn interval :: life)) =
        session.owed interval life ∧
      ∀ rest, ofLoop session.schedule.spawned (session.history
        (.spawn interval :: life ++ .stop session.schedule.spawned :: rest)) =
          session.owed interval life) ∧
    (∀ before (parts : List Nat) after, session.run (before ++ parts.map .advance ++ after) =
      session.run (before ++ .advance parts.sum :: after)) ∧
    ∀ observers existing, session.schedule.controller = .ofFlags observers existing →
      (∀ observer ∈ observers, observer.path ≠ []) →
      (observers.map (·.path)).Pairwise Path.Apart →
      ∀ before steps, (∀ lister, .answer lister ∉ steps) →
      ∀ first others, (session.run before).session.syncs steps = first :: others →
      ∀ sync ∈ others, sync.Quiet first.controller := by
  refine ⟨session.runs_run, fun interval life kept => ?_, session.run_advances_between, ?_⟩
  · exact ⟨session.ofLoop_history_spawn interval kept,
      session.ofLoop_history_spawn_stop interval kept⟩
  · intro observers existing flags nonempty apart before steps unanswered first others syncs
    obtain ⟨t, flags_then⟩ := session.exists_controller_run flags before
    exact quiet_of_syncs _ flags_then nonempty apart unanswered syncs

/-- Two loops, and a source that is up from the very instant on at which the first loop has a
    tick due: that tick still meets it down. A loop of a nanosecond ticks once a millisecond. In
    another session the first sync by hand after
    the source is up announces the list derived; the start of a loop, its ticks and another sync
    by hand announce nothing. -/
theorem loops_on_schedule_boundary :
    let observers : List FlagsObserver :=
      [⟨[], ["a", "x"], ∅⟩, ⟨[], ["a", "y"], Table.ofList [(.default, ⟨["A"], ["B"]⟩)]⟩]
    let down : Lister := fun _ => .error (.unavailable "connection reset")
    let up : Lister := fun _ => .ok none
    let session : Session := ⟨{ controller := .ofFlags observers ∅ }, down⟩
    let life : List Step := [.advance 1, .advance 2, .answer up, .spawn 1, .advance 2]
    let served := [(0, down), (1, down), (2, down), (3, up)]
    let settled := (session.run [.spawn 1500000, .answer up]).session
    ofLoop 0 (session.history (.spawn 1500000 :: life)) = served ∧
      ofLoop 0 (session.history (.spawn 1500000 :: life ++ .stop 0 :: [.advance 9])) = served ∧
      ofLoop 0 (session.history [.spawn 1, .advance 3]) =
        [(0, down), (1, down), (2, down), (3, down)] ∧
      session.run ([.spawn 1, .sync] ++ [1, 2].map .advance ++ [.stop 0]) =
        session.run ([.spawn 1, .sync] ++ .advance 3 :: [.stop 0]) ∧
      ∃ first others, settled.syncs [.sync, .spawn 1, .sync, .advance 3] = first :: others ∧
        first.trace.notices = [.flagsUpdated ["a", "y"] ["A=true", "B=false"],
          .configChanged (Tree.only ["a", "y"] (.ofStrings ["A=true", "B=false"]))] ∧
        2 ≤ others.length ∧ ∀ sync ∈ others, sync.Quiet first.controller := by
  intro observers down up session life served settled
  obtain ⟨-, loops, split, quiet⟩ := session.loops_on_schedule
  have kept : .stop session.schedule.spawned ∉ life := by simp [life]
  have owed : session.owed 1500000 life = served := by
    have lived : elapsed life * 1000000 / 1500000 + 1 = 4 := by decide +kernel
    have period : max 1000000 1500000 = 1500000 := by decide +kernel
    have now : session.schedule.now = 0 := rfl
    have changed : changes 0 life = [(3, up)] := rfl
    have answers (instant : Nat) :
        session.listerAt life instant = if 3 * 1000000 < instant then up else down := by
      simp only [listerAt, now, changed, List.filter_cons, List.filter_nil, decide_eq_true_eq]
      split
      · rfl
      · rfl
    simp only [Session.owed, period, lived, now, answers]
    simp [List.range_succ, served]
  have owed_soon : session.owed 1 [.advance 3] = [(0, down), (1, down), (2, down), (3, down)] := by
    rfl
  obtain ⟨alive, stopped⟩ := loops 1500000 life kept
  obtain ⟨alive_soon, -⟩ := loops 1 [.advance 3] (by simp)
  have nonempty : ∀ observer ∈ observers, observer.path ≠ [] := by simp [observers]
  have apart : (observers.map (·.path)).Pairwise Path.Apart := by decide
  have unanswered : ∀ lister, .answer lister ∉ [Step.sync, .spawn 1, .sync, .advance 3] := by
    simp
  refine ⟨alive.trans owed, (stopped [.advance 9]).trans owed, alive_soon.trans owed_soon,
    split _ [1, 2] _, _, _, rfl, ?_, Nat.le_add_left .., ?_⟩
  · decide +kernel
  · exact quiet observers ∅ rfl nonempty apart [.spawn 1500000, .answer up] _ unanswered _ _ rfl

end Session

end FeatureFlags
