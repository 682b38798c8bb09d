import FeatureFlags.Controller.Session
import Mathlib.Data.List.Perm.Basic

/-!
# Ticks

Which ticks an advance of the clock serves: those of the running loops whose instants the clock
passes or reaches (`Schedule.mem_due_iff`), each loop's own in the order of their numbers
(`Schedule.filter_due`). Two advances serve the ticks of one as long as both
(`Schedule.due_add`).
-/

namespace FeatureFlags

namespace Loop

variable (loop : Loop)

theorem period_pos : 0 < loop.period := by
  have raised := loop.raised
  rw [minPeriod] at raised
  omega

theorem ticksBy_mono {a b : Nat} (ab : a ≤ b) : loop.ticksBy a ≤ loop.ticksBy b := by
  apply Nat.div_le_div_right
  omega

/-- A tick has come due by a time exactly if its instant is not after it. -/
theorem le_ticksBy_iff {time number : Nat} (begun : loop.started ≤ time) :
    number ≤ loop.ticksBy time ↔ loop.instant number ≤ time * 1000000 := by
  rw [ticksBy, Nat.le_div_iff_mul_le loop.period_pos, instant, Nat.sub_mul]
  have started := Nat.mul_le_mul_right 1000000 begun
  omega

@[simp] theorem numbersBetween_self (a : Nat) : loop.numbersBetween a a = [] := by
  simp [numbersBetween]

/-- From its start on a loop counts its ticks from one, the one at the start not counted. -/
theorem numbersBetween_started (ms : Nat) :
    loop.numbersBetween loop.started (loop.started + ms) =
      List.range' 1 (ms * 1000000 / loop.period) := by
  simp [numbersBetween, ticksBy]

theorem mem_numbersBetween_iff {a b : Nat} (begun : loop.started ≤ a) (ab : a ≤ b)
    {number : Nat} : number ∈ loop.numbersBetween a b ↔
      a * 1000000 < loop.instant number ∧ loop.instant number ≤ b * 1000000 := by
  have mono := loop.ticksBy_mono ab
  have early : number ≤ loop.ticksBy a ↔ loop.instant number ≤ a * 1000000 :=
    loop.le_ticksBy_iff begun
  have soon : number ≤ loop.ticksBy b ↔ loop.instant number ≤ b * 1000000 :=
    loop.le_ticksBy_iff (Nat.le_trans begun ab)
  rw [numbersBetween, List.mem_range'_1]
  omega

theorem numbersBetween_append {a b c : Nat} (ab : a ≤ b) (bc : b ≤ c) :
    loop.numbersBetween a b ++ loop.numbersBetween b c = loop.numbersBetween a c := by
  have first := loop.ticksBy_mono ab
  have second := loop.ticksBy_mono bc
  have from_b : loop.ticksBy b + 1 = loop.ticksBy a + 1 + (loop.ticksBy b - loop.ticksBy a) := by
    omega
  have total : loop.ticksBy c - loop.ticksBy a =
      (loop.ticksBy b - loop.ticksBy a) + (loop.ticksBy c - loop.ticksBy b) := by
    omega
  rw [numbersBetween, numbersBetween, numbersBetween, total, from_b, List.range'_append_1]

theorem mem_ticksBetween_iff {a b : Nat} (begun : loop.started ≤ a) (ab : a ≤ b) {tick : Tick} :
    tick ∈ loop.ticksBetween a b ↔
      tick.loop = loop ∧ a * 1000000 < tick.time ∧ tick.time ≤ b * 1000000 := by
  obtain ⟨other, number⟩ := tick
  simp only [ticksBetween, List.mem_map, Tick.mk.injEq, Tick.time]
  constructor
  · rintro ⟨k, member, rfl, rfl⟩
    exact ⟨rfl, (loop.mem_numbersBetween_iff begun ab).1 member⟩
  · rintro ⟨rfl, inside⟩
    exact ⟨number, (other.mem_numbersBetween_iff begun ab).2 inside, rfl, rfl⟩

theorem ticksBetween_append {a b c : Nat} (ab : a ≤ b) (bc : b ≤ c) :
    loop.ticksBetween a b ++ loop.ticksBetween b c = loop.ticksBetween a c := by
  simp only [ticksBetween, ← loop.numbersBetween_append ab bc, List.map_append]

theorem pairwise_ticksBetween (a b : Nat) :
    (loop.ticksBetween a b).Pairwise fun s t => s.time ≤ t.time := by
  rw [ticksBetween, List.pairwise_map]
  apply List.Pairwise.imp _ List.pairwise_lt_range'
  intro m n less
  exact Nat.add_le_add_left (Nat.mul_le_mul_right _ (Nat.le_of_lt less)) _

/-- Ticks of one loop at the same instant are the same tick. -/
theorem eq_of_time_eq {s t : Tick} (same_loop : s.loop = t.loop) (same : s.time = t.time) :
    s = t := by
  obtain ⟨loop, m⟩ := s
  obtain ⟨loop', n⟩ := t
  obtain rfl : loop = loop' := same_loop
  have spread : m * loop.period = n * loop.period := Nat.add_left_cancel same
  rw [Nat.eq_of_mul_eq_mul_right loop.period_pos spread]

end Loop

namespace Schedule

variable (schedule : Schedule) (ms : Nat)

theorem perm_due : (schedule.due ms).Perm (schedule.dueByLoop ms) := List.mergeSort_perm _ _

theorem pairwise_due : (schedule.due ms).Pairwise fun s t => s.time ≤ t.time := by
  let inOrder : Tick → Tick → Bool := fun s t => s.time ≤ t.time
  have trans : ∀ r s t, inOrder r s → inOrder s t → inOrder r t := by
    intro r s t
    simpa [inOrder] using Nat.le_trans
  have total : ∀ s t, inOrder s t || inOrder t s := by
    intro s t
    simpa [inOrder] using Nat.le_total s.time t.time
  have sorted : (schedule.due ms).Pairwise fun s t => inOrder s t :=
    List.pairwise_mergeSort trans total (schedule.dueByLoop ms)
  simpa only [inOrder, decide_eq_true_eq] using sorted

/-- An advance serves the ticks of the running loops that the clock passes or reaches. -/
theorem mem_due_iff {tick : Tick} :
    tick ∈ schedule.due ms ↔ tick.loop ∈ schedule.loops ∧
      schedule.now * 1000000 < tick.time ∧ tick.time ≤ (schedule.now + ms) * 1000000 := by
  rw [(schedule.perm_due ms).mem_iff, dueByLoop, List.mem_flatMap]
  constructor
  · rintro ⟨loop, running, member⟩
    obtain ⟨rfl, inside⟩ :=
      (loop.mem_ticksBetween_iff (schedule.begun loop running) (Nat.le_add_right ..)).1 member
    exact ⟨running, inside⟩
  · rintro ⟨running, inside⟩
    exact ⟨tick.loop, running, (tick.loop.mem_ticksBetween_iff
      (schedule.begun tick.loop running) (Nat.le_add_right ..)).2 ⟨rfl, inside⟩⟩

theorem filter_ticksBetween (loop : Loop) (handle a b : Nat) :
    (loop.ticksBetween a b).filter (·.loop.handle = handle) =
      if loop.handle = handle then loop.ticksBetween a b else [] := by
  have own (tick : Tick) (member : tick ∈ loop.ticksBetween a b) : tick.loop = loop := by
    obtain ⟨number, -, rfl⟩ := List.mem_map.1 member
    rfl
  split
  · next same =>
    rw [List.filter_eq_self]
    intro tick member
    simpa [own tick member] using same
  · next other =>
    rw [List.filter_eq_nil_iff]
    intro tick member
    simpa [own tick member] using other

theorem filter_flatMap_ticksBetween {loops : List Loop} (distinct : (loops.map (·.handle)).Nodup)
    {loop : Loop} (running : loop ∈ loops) (a b : Nat) :
    (loops.flatMap (·.ticksBetween a b)).filter (·.loop.handle = loop.handle) =
      loop.ticksBetween a b := by
  induction loops with
  | nil => cases running
  | cons first rest ih =>
    obtain ⟨fresh, distinct⟩ := List.nodup_cons.1 distinct
    rw [List.flatMap_cons, List.filter_append, filter_ticksBetween]
    rcases List.mem_cons.1 running with rfl | later
    · have others : (rest.flatMap (·.ticksBetween a b)).filter (·.loop.handle = loop.handle) =
          [] := by
        rw [List.filter_flatMap, List.flatMap_eq_nil_iff]
        intro other member
        rw [filter_ticksBetween, if_neg]
        intro same
        exact fresh (List.mem_map.2 ⟨other, member, same⟩)
      rw [if_pos rfl, others, List.append_nil]
    · have differ : first.handle ≠ loop.handle := fun same =>
        fresh (List.mem_map.2 ⟨loop, later, same.symm⟩)
      rw [if_neg differ, ih distinct later, List.nil_append]

/-- The ticks of one loop are served in the order of their numbers. -/
theorem filter_due {loop : Loop} (running : loop ∈ schedule.loops) :
    (schedule.due ms).filter (·.loop.handle = loop.handle) =
      loop.ticksBetween schedule.now (schedule.now + ms) := by
  have own := filter_flatMap_ticksBetween schedule.distinct running schedule.now
    (schedule.now + ms)
  have same := (schedule.perm_due ms).filter (·.loop.handle = loop.handle)
  rw [dueByLoop, own] at same
  -- Ticks of one loop come due one after the other, so their order leaves no choice.
  refine same.eq_of_pairwise ?_ ((schedule.pairwise_due ms).filter _)
    (loop.pairwise_ticksBetween _ _)
  intro s t left right before after
  have ours (tick : Tick) (member : tick ∈ loop.ticksBetween schedule.now (schedule.now + ms)) :
      tick.loop = loop :=
    ((loop.mem_ticksBetween_iff (schedule.begun loop running) (Nat.le_add_right ..)).1 member).1
  exact Loop.eq_of_time_eq ((ours s (same.mem_iff.1 left)).trans (ours t right).symm)
    (Nat.le_antisymm before after)

/-- A loop that does not run is not served. -/
theorem filter_due_eq_nil {handle : Nat} (stopped : ∀ loop ∈ schedule.loops, loop.handle ≠ handle) :
    (schedule.due ms).filter (·.loop.handle = handle) = [] := by
  rw [List.filter_eq_nil_iff]
  intro tick member
  simpa using stopped tick.loop ((schedule.mem_due_iff ms).1 member).1

open List in
/-- The ticks of one advance are those of two that take as long. -/
theorem due_add (a b : Nat) :
    (schedule.due (a + b)).Perm (schedule.due a ++ (schedule.later a).due b) := by
  have whole : schedule.dueByLoop (a + b) = schedule.loops.flatMap fun loop =>
      loop.ticksBetween schedule.now (schedule.now + a) ++
        loop.ticksBetween (schedule.now + a) (schedule.now + a + b) := by
    rw [dueByLoop, ← Nat.add_assoc]
    congr 1
    funext loop
    exact (loop.ticksBetween_append (Nat.le_add_right ..) (Nat.le_add_right ..)).symm
  calc schedule.due (a + b)
    _ ~ schedule.dueByLoop (a + b) := schedule.perm_due (a + b)
    _ ~ schedule.dueByLoop a ++ (schedule.later a).dueByLoop b := by
        rw [whole]
        exact (List.flatMap_append_perm _ _ _).symm
    _ ~ schedule.due a ++ (schedule.later a).due b :=
        (schedule.perm_due a).symm.append ((schedule.later a).perm_due b).symm

end Schedule

end FeatureFlags
