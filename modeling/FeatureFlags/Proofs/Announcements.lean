import FeatureFlags.Proofs.Sync

/-!
# Announcements

What is announced in a run tells what has become of the tree. Over paths apart the list read
at an observer's path is the one that was announced for it last, and the tree is the last one
announced as a whole; a sync that announces a list announces a tree after it.
-/

namespace FeatureFlags

theorem getLastD_append {α : Type} (l l' : List α) (fallback : α) :
    (l ++ l').getLastD fallback = l'.getLastD (l.getLastD fallback) := by
  simp only [List.getLastD_eq_getLast?, List.getLast?_append]
  cases l'.getLast? <;> rfl

namespace Notice

/-- The list that a notice announces for a path. -/
def flagsFor? (path : Path) : Notice → Option (List String)
  | flagsUpdated p flags => if p = path then some flags else none
  | _ => none

/-- The tree that a notice announces as a whole. -/
def config? : Notice → Option Tree
  | configChanged config => some config
  | _ => none

end Notice

/-- All that is announced in a run, in order. -/
def Controller.notices (controller : Controller) (listers : List Lister) : List Notice :=
  (controller.syncs listers).flatMap (·.trace.notices)

theorem Controller.notices_concat (controller : Controller) (listers : List Lister)
    (lister : Lister) :
    controller.notices (listers ++ [lister]) =
      controller.notices listers ++ ((controller.after listers).sync lister).trace.notices := by
  simp [notices, syncs_concat]

namespace FlagsObserver

section One

variable {observer : FlagsObserver} {lister : Lister} {existing : Tree}

theorem exists_flags_of_mem_notices (nonempty : observer.path ≠ []) {notice : Notice}
    (member : notice ∈ (observer.observe lister existing).2.notices) :
    ∃ flags, notice = .flagsUpdated observer.path flags := by
  rw [notices_observe nonempty] at member
  split at member
  · split at member
    · simp at member
    · exact ⟨_, List.mem_singleton.1 member⟩
  · simp at member

/-- An observer announces nothing for the path of another one. -/
theorem flagsFor?_of_ne (nonempty : observer.path ≠ []) {q : Path} (other : observer.path ≠ q) :
    (observer.observe lister existing).2.notices.filterMap (·.flagsFor? q) = [] := by
  rw [List.filterMap_eq_nil_iff]
  intro notice member
  obtain ⟨flags, rfl⟩ := exists_flags_of_mem_notices nonempty member
  exact if_neg other

/-- An observer never announces a tree as a whole. -/
theorem config?_eq_nil (nonempty : observer.path ≠ []) :
    (observer.observe lister existing).2.notices.filterMap Notice.config? = [] := by
  rw [List.filterMap_eq_nil_iff]
  intro notice member
  obtain ⟨flags, rfl⟩ := exists_flags_of_mem_notices nonempty member
  rfl

end One

variable {observers : List FlagsObserver}

section Apart

variable (nonempty : ∀ observer ∈ observers, observer.path ≠ [])
  (apart : (observers.map (·.path)).Pairwise Path.Apart)

include nonempty apart in
/-- For the path of an observer nobody else announces a list. -/
theorem flagsFor?_flatMap {observer : FlagsObserver} (member : observer ∈ observers)
    (lister : Lister) (existing : Tree) :
    (observers.flatMap fun observer => (observer.observe lister existing).2.notices).filterMap
        (·.flagsFor? observer.path) =
      (observer.observe lister existing).2.notices.filterMap (·.flagsFor? observer.path) := by
  obtain ⟨before, after, rfl⟩ := List.append_of_mem member
  obtain ⟨-, fromHere, across⟩ := List.pairwise_append.1 (List.pairwise_map.1 apart)
  have others : ∀ other ∈ before ++ after,
      (other.observe lister existing).2.notices.filterMap (·.flagsFor? observer.path) = [] := by
    intro other there
    have away : other.path.Apart observer.path := by
      rcases List.mem_append.1 there with early | late
      · exact across other early observer (by simp)
      · exact ((List.pairwise_cons.1 fromHere).1 other late).symm
    apply flagsFor?_of_ne (nonempty other ?_)
    · exact fun same => away (same ▸ Path.overlaps_refl _)
    · rcases List.mem_append.1 there with early | late
      · simp [early]
      · simp [late]
  have none_before := List.flatMap_eq_nil_iff.2 fun other there =>
    others other (List.mem_append_left after there)
  have none_after := List.flatMap_eq_nil_iff.2 fun other there =>
    others other (List.mem_append_right before there)
  rw [List.filterMap_flatMap, List.flatMap_append, List.flatMap_cons, none_before, none_after,
    List.nil_append, List.append_nil]

include nonempty apart in
/-- After a sync an observer reads the list that it announced in it, or the one that was there
    if it announced none. -/
theorem currentFlags_publish {observer : FlagsObserver} (member : observer ∈ observers)
    (lister : Lister) (existing : Tree) :
    observer.currentFlags (publish observers lister existing) =
      ((observer.observe lister existing).2.notices.filterMap
        (·.flagsFor? observer.path)).getLastD (observer.currentFlags existing) := by
  rw [currentFlags_eq observer (publish observers lister existing),
    listAt_publish_of_apart nonempty apart member, notices_observe (nonempty observer member)]
  cases derived : observer.derive lister with
  | error failure =>
    rw [offer_list_of_fails (derive_eq_error_iff.1 derived), ← currentFlags_eq]
    rfl
  | ok flags =>
    rw [offer_list_of_derive derived]
    by_cases same : observer.currentFlags existing = flags
    · simp [same]
    · simp [same, Notice.flagsFor?]

include nonempty apart in
/-- A sync in which an observer announces something publishes another tree. -/
theorem publish_ne_of_notices {observer : FlagsObserver} (member : observer ∈ observers)
    {lister : Lister} {existing : Tree}
    (announced : (observer.observe lister existing).2.notices ≠ []) :
    existing ≠ publish observers lister existing := by
  intro same
  have read := currentFlags_publish nonempty apart member lister existing
  rw [← same, notices_observe (nonempty observer member)] at read
  rw [notices_observe (nonempty observer member)] at announced
  cases derived : observer.derive lister with
  | error failure => simp [derived] at announced
  | ok flags =>
    by_cases unchanged : observer.currentFlags existing = flags
    · simp [derived, unchanged] at announced
    · simp [derived, unchanged, Notice.flagsFor?] at read

/-! ## Syncs and runs -/

include nonempty apart in
theorem currentFlags_sync {observer : FlagsObserver} (member : observer ∈ observers)
    (existing : Tree) (lister : Lister) :
    let sync := (Controller.ofFlags observers existing).sync lister
    observer.currentFlags sync.controller.observed =
      (sync.trace.notices.filterMap (·.flagsFor? observer.path)).getLastD
        (observer.currentFlags existing) := by
  obtain ⟨left, -, announced⟩ := Controller.sync_ofFlags observers existing lister
  have published : (if existing = publish observers lister existing then []
      else [Notice.configChanged (publish observers lister existing)]).filterMap
        (·.flagsFor? observer.path) = [] := by
    split <;> rfl
  simp only [left, announced, List.filterMap_append, published, List.append_nil]
  rw [flagsFor?_flatMap nonempty apart member]
  exact currentFlags_publish nonempty apart member lister existing

include nonempty in
theorem observed_sync (existing : Tree) (lister : Lister) :
    let sync := (Controller.ofFlags observers existing).sync lister
    sync.controller.observed =
      (sync.trace.notices.filterMap Notice.config?).getLastD existing := by
  obtain ⟨left, -, announced⟩ := Controller.sync_ofFlags observers existing lister
  have own : (observers.flatMap fun observer =>
      (observer.observe lister existing).2.notices).filterMap Notice.config? = [] := by
    rw [List.filterMap_flatMap, List.flatMap_eq_nil_iff]
    exact fun observer member => config?_eq_nil (nonempty observer member)
  simp only [left, announced, List.filterMap_append, own, List.nil_append]
  split
  · next same => exact same.symm
  · rfl

include nonempty in
/-- What a sync records: first the updates of the observers, and then the tree, if it is
    another one. -/
theorem events_sync (existing : Tree) (lister : Lister) :
    let sync := (Controller.ofFlags observers existing).sync lister
    let own := fun observer : FlagsObserver => (observer.observe lister existing).2.notices
    (∀ observer ∈ observers, ∀ notice ∈ own observer,
      ∃ flags, notice = .flagsUpdated observer.path flags ∧
        notice.event = ⟨.normal, "ObserveFeatureFlagsUpdated",
          "Updated " ++ ".".intercalate observer.path ++ " to " ++ ",".intercalate flags⟩) ∧
    sync.trace.notices.map Notice.event = (observers.flatMap own).map Notice.event ++
      (if sync.report.changed then
        [⟨.normal, "ObservedConfigChanged", "Writing updated observed config: "
          ++ (Json.object sync.controller.observed).render⟩]
      else []) := by
  obtain ⟨left, reported, announced⟩ := Controller.sync_ofFlags observers existing lister
  refine ⟨fun observer member notice there => ?_, ?_⟩
  · obtain ⟨flags, rfl⟩ := exists_flags_of_mem_notices (nonempty observer member) there
    exact ⟨flags, rfl, rfl⟩
  · rw [left, reported, announced, List.map_append]
    congr 1
    by_cases same : existing = publish observers lister existing
    · simp [← same]
    · simp [same, Notice.event, Controller.ofFlags]

include nonempty apart in
theorem changed_of_update (existing : Tree) (lister : Lister) {notice : Notice}
    (member : notice ∈ ((Controller.ofFlags observers existing).sync lister).trace.notices)
    (update : notice.event.reason = "ObserveFeatureFlagsUpdated") :
    ((Controller.ofFlags observers existing).sync lister).report.changed = true := by
  obtain ⟨-, reported, announced⟩ := Controller.sync_ofFlags observers existing lister
  rw [announced] at member
  rw [reported]
  rcases List.mem_append.1 member with own | published
  · obtain ⟨observer, there, mine⟩ := List.mem_flatMap.1 own
    exact decide_eq_true (publish_ne_of_notices nonempty apart there (List.ne_nil_of_mem mine))
  · split at published
    · simp at published
    · rw [List.mem_singleton.1 published] at update
      simp [Notice.event] at update

include nonempty apart in
theorem currentFlags_after {observer : FlagsObserver} (member : observer ∈ observers)
    (initial : Tree) (listers : List Lister) :
    let start := Controller.ofFlags observers initial
    observer.currentFlags (start.after listers).observed =
      ((start.notices listers).filterMap (·.flagsFor? observer.path)).getLastD
        (observer.currentFlags initial) := by
  intro start
  induction listers using List.reverseRecOn with
  | nil => rfl
  | append_singleton listers lister ih =>
    obtain ⟨t, at_t⟩ := Controller.exists_after_eq observers initial listers
    have step := currentFlags_sync nonempty apart member t lister
    rw [Controller.after_concat, Controller.notices_concat, List.filterMap_append,
      getLastD_append, ← ih, at_t]
    exact step

include nonempty in
theorem observed_eq_getLastD (initial : Tree) (listers : List Lister) :
    let start := Controller.ofFlags observers initial
    (start.after listers).observed =
      ((start.notices listers).filterMap Notice.config?).getLastD initial := by
  intro start
  induction listers using List.reverseRecOn with
  | nil => rfl
  | append_singleton listers lister ih =>
    obtain ⟨t, at_t⟩ := Controller.exists_after_eq observers initial listers
    have step := observed_sync nonempty t lister
    rw [Controller.after_concat, Controller.notices_concat, List.filterMap_append,
      getLastD_append, ← ih, at_t]
    exact step

end Apart

/-- At every point of a run the announcements made so far tell the tree: the list at an
    observer's path is the one announced for it last, and the whole is the tree announced last,
    each being as it was at first if nothing was announced. In a sync every observer announces
    updates at its own path alone, each recorded as an event with the path and the list; the tree
    is announced after all of these, and exactly if the sync reports a change; and so it does if
    any update was announced. -/
theorem observed_of_announcements (nonempty : ∀ observer ∈ observers, observer.path ≠ [])
    (apart : (observers.map (·.path)).Pairwise Path.Apart) (initial : Tree)
    (listers : List Lister) :
    let start := Controller.ofFlags observers initial
    let running := start.after listers
    let notices := start.notices listers
    (∀ observer ∈ observers, observer.currentFlags running.observed =
      (notices.filterMap (·.flagsFor? observer.path)).getLastD
        (observer.currentFlags initial)) ∧
    running.observed = (notices.filterMap Notice.config?).getLastD initial ∧
    ∀ lister,
      let sync := running.sync lister
      let own := fun observer : FlagsObserver =>
        (observer.observe lister running.observed).2.notices
      (∀ observer ∈ observers, ∀ notice ∈ own observer,
        ∃ flags, notice = .flagsUpdated observer.path flags ∧
          notice.event = ⟨.normal, "ObserveFeatureFlagsUpdated",
            "Updated " ++ ".".intercalate observer.path ++ " to " ++ ",".intercalate flags⟩) ∧
      sync.trace.notices.map Notice.event = (observers.flatMap own).map Notice.event ++
        (if sync.report.changed then
          [⟨.normal, "ObservedConfigChanged", "Writing updated observed config: "
            ++ (Json.object sync.controller.observed).render⟩]
        else []) ∧
      ∀ notice ∈ sync.trace.notices, notice.event.reason = "ObserveFeatureFlagsUpdated" →
        sync.report.changed = true := by
  intro start running notices
  refine ⟨fun observer member => currentFlags_after nonempty apart member initial listers,
    observed_eq_getLastD nonempty initial listers, fun lister => ?_⟩
  obtain ⟨t, at_t⟩ : ∃ t, running = Controller.ofFlags observers t :=
    Controller.exists_after_eq observers initial listers
  obtain ⟨own, recorded⟩ := events_sync nonempty t lister
  rw [at_t]
  exact ⟨own, recorded, fun notice member => changed_of_update nonempty apart t lister member⟩

/-- Three syncs, with the source down at the first and the last. The first one drops what no
    observer manages, a malformed list with it, and announces the tree alone; the second
    announces the list derived and the tree, recorded as two events; the third announces
    nothing. -/
theorem observed_of_announcements_outages :
    let observers : List FlagsObserver :=
      [⟨[], ["a", "x"], ∅⟩, ⟨[], ["a", "y"], Table.ofList [(.default, ⟨["A"], ["B"]⟩)]⟩]
    let initial := Tree.ofList
      [("a", .ofMembers [("x", .ofStrings ["Kept=true"]), ("y", .bool true)]), ("z", .null)]
    let down : Lister := fun _ => .error (.unavailable "connection reset")
    let up : Lister := fun _ => .ok none
    let start := Controller.ofFlags observers initial
    let running := start.after [down, up, down]
    let kept := Tree.only ["a", "x"] (.ofStrings ["Kept=true"])
    let full := Tree.ofList [("a", .ofMembers
      [("x", .ofStrings ["Kept=true"]), ("y", .ofStrings ["A=true", "B=false"])])]
    (∀ observer ∈ observers, observer.path ≠ []) ∧
      (observers.map (·.path)).Pairwise Path.Apart ∧
      start.notices [down, up, down] = [.configChanged kept,
        .flagsUpdated ["a", "y"] ["A=true", "B=false"], .configChanged full] ∧
      running.observed = full ∧
      (∀ observer ∈ observers, observer.currentFlags full =
        if observer.path = ["a", "y"] then ["A=true", "B=false"] else ["Kept=true"]) ∧
      ((start.after [down]).sync up).trace.notices.map Notice.event = [
        ⟨.normal, "ObserveFeatureFlagsUpdated", "Updated a.y to A=true,B=false"⟩,
        ⟨.normal, "ObservedConfigChanged", "Writing updated observed config: \x7b\"a\":"
          ++ "\x7b\"x\":[\"Kept=true\"],\"y\":[\"A=true\",\"B=false\"]\x7d\x7d"⟩] := by
  intro observers initial down up start running kept full
  have nonempty : ∀ observer ∈ observers, observer.path ≠ [] := by simp [observers]
  have apart : (observers.map (·.path)).Pairwise Path.Apart := by decide
  have announced : start.notices [down, up, down] = [.configChanged kept,
      .flagsUpdated ["a", "y"] ["A=true", "B=false"], .configChanged full] := by decide +kernel
  obtain ⟨lists, tree, -⟩ := observed_of_announcements nonempty apart initial [down, up, down]
  rw [announced] at lists tree
  obtain ⟨-, -, step⟩ := observed_of_announcements nonempty apart initial [down]
  obtain ⟨-, recorded, -⟩ := step up
  refine ⟨nonempty, apart, announced, tree, fun observer member => ?_, ?_⟩
  · have list := lists observer member
    rw [tree] at list
    simp only [observers, List.mem_cons, List.not_mem_nil, or_false] at member
    rcases member with rfl | rfl
    · exact list.trans (by decide +kernel)
    · exact list.trans (by decide +kernel)
  · rw [recorded]
    decide +kernel

end FlagsObserver

end FeatureFlags
