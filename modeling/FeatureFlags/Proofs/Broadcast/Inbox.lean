import FeatureFlags.Event.Broadcast

/-!
# A queue for each subscriber

A channel as one of its subscribers sees it: events are added to a queue of its own, and it takes
from the front. Other subscribers do not come into it, so that what a subscriber is told depends
only on the steps that bear on it. What it is told accounts for every event that was added
(`Inbox.answers_spell`).
-/

namespace FeatureFlags

/-- A step as it bears on one subscriber. -/
inductive Signal
  | record (event : Event)
  | clone
  | close
  | receive
  | leave
  deriving DecidableEq

/-- How a step bears on a subscriber. The steps of the others and new subscriptions do not. -/
def BroadcastStep.signal? (number : Nat) : BroadcastStep → Option Signal
  | .record event => some (.record event)
  | .subscribe => none
  | .unsubscribe other => if other = number then some .leave else none
  | .clone => some .clone
  | .close => some .close
  | .receive other => if other = number then some .receive else none

namespace BroadcastStep

variable {number other : Nat}

theorem signal?_unsubscribe_self : (unsubscribe number).signal? number = some .leave := if_pos rfl

theorem signal?_unsubscribe_of_ne (another : other ≠ number) :
    (unsubscribe other).signal? number = none :=
  if_neg another

theorem signal?_receive_self : (receive number).signal? number = some .receive := if_pos rfl

theorem signal?_receive_of_ne (another : other ≠ number) :
    (receive other).signal? number = none :=
  if_neg another

theorem signal?_eq_leave_iff {step : BroadcastStep} :
    step.signal? number = some .leave ↔ step = .unsubscribe number := by
  cases step with
  | unsubscribe other => by_cases own : other = number <;> simp [signal?, own]
  | receive other => by_cases own : other = number <;> simp [signal?, own]
  | _ => simp [signal?]

end BroadcastStep

/-- What answers amount to: an event stands for itself, `lagged n` for `n` events that were lost,
    and the other answers for nothing. -/
inductive Spells : List Received → List Event → Prop
  | nil : Spells [] []
  | event (event : Event) {answers : List Received} {events : List Event}
      (later : Spells answers events) : Spells (.event event :: answers) (event :: events)
  | lagged (lost : List Event) {answers : List Received} {events : List Event}
      (later : Spells answers events) : Spells (.lagged lost.length :: answers) (lost ++ events)
  | empty {answers : List Received} {events : List Event} (later : Spells answers events) :
      Spells (.empty :: answers) events
  | closed {answers : List Received} {events : List Event} (later : Spells answers events) :
      Spells (.closed :: answers) events

/-- What one subscriber has before it. -/
structure Inbox where
  /-- How many events are kept for it. -/
  capacity : Nat
  recorders : Nat
  unread : List Event := []
  left : Bool := false

namespace Inbox

/-- What comes next, and what is unread then. -/
def next (inbox : Inbox) : Received × List Event :=
  if inbox.capacity < inbox.unread.length then
    let lost := inbox.unread.length - inbox.capacity
    (.lagged lost, inbox.unread.drop lost)
  else
    match inbox.unread with
    | [] => (if inbox.recorders = 0 then .closed else .empty, [])
    | event :: rest => (.event event, rest)

/-- The event that a signal adds. Nothing is recorded without a recorder. -/
def recorded? (inbox : Inbox) : Signal → Option Event
  | .record event => if inbox.recorders = 0 then none else some event
  | _ => none

/-- What a signal brings the subscriber. -/
def handed? (inbox : Inbox) : Signal → Option Received
  | .receive => if inbox.left then none else some inbox.next.1
  | _ => none

def apply (inbox : Inbox) (signal : Signal) : Inbox :=
  match signal with
  | .record _ => { inbox with unread := inbox.unread ++ (inbox.recorded? signal).toList }
  | .clone =>
    { inbox with recorders := if inbox.recorders = 0 then 0 else inbox.recorders + 1 }
  | .close => { inbox with recorders := inbox.recorders - 1 }
  | .receive => { inbox with unread := if inbox.left then inbox.unread else inbox.next.2 }
  | .leave => { inbox with left := true }

def after (inbox : Inbox) (signals : List Signal) : Inbox := signals.foldl apply inbox

/-- The events added in the course of signals. -/
def recorded : Inbox → List Signal → List Event
  | _, [] => []
  | inbox, signal :: rest => (inbox.recorded? signal).toList ++ (inbox.apply signal).recorded rest

/-- What the subscriber is told in the course of signals. -/
def answers : Inbox → List Signal → List Received
  | _, [] => []
  | inbox, signal :: rest => (inbox.handed? signal).toList ++ (inbox.apply signal).answers rest

variable {inbox : Inbox}

theorem next_of_behind (behind : inbox.capacity < inbox.unread.length) :
    inbox.next = (.lagged (inbox.unread.length - inbox.capacity),
      inbox.unread.drop (inbox.unread.length - inbox.capacity)) :=
  if_pos behind

theorem next_of_nil (read : inbox.unread = []) :
    inbox.next = (if inbox.recorders = 0 then .closed else .empty, []) := by
  simp [next, read]

theorem next_of_cons {event : Event} {rest : List Event} (unread : inbox.unread = event :: rest)
    (kept : inbox.unread.length ≤ inbox.capacity) : inbox.next = (.event event, rest) := by
  rw [next, if_neg (Nat.not_lt.2 kept), unread]

/-- The three ways in which an inbox can be read. -/
theorem next_cases (inbox : Inbox) :
    inbox.unread = [] ∨ inbox.capacity < inbox.unread.length ∨
      ∃ event rest, inbox.unread = event :: rest ∧ inbox.unread.length ≤ inbox.capacity := by
  by_cases behind : inbox.capacity < inbox.unread.length
  · exact .inr (.inl behind)
  · cases unread : inbox.unread with
    | nil => exact .inl rfl
    | cons event rest => exact .inr (.inr ⟨event, rest, rfl, unread ▸ Nat.not_lt.1 behind⟩)

theorem apply_record_of_shut (shut : inbox.recorders = 0) (event : Event) :
    inbox.apply (.record event) = inbox := by
  simp only [apply, recorded?, if_pos shut, Option.toList_none, List.append_nil]

theorem apply_record_of_open (not_shut : inbox.recorders ≠ 0) (event : Event) :
    inbox.apply (.record event) = { inbox with unread := inbox.unread ++ [event] } := by
  simp only [apply, recorded?, if_neg not_shut, Option.toList_some]

/-! ## What is told when -/

theorem next_eq_lagged_iff {count : Nat} : inbox.next.1 = .lagged count ↔
    inbox.capacity < inbox.unread.length ∧ count = inbox.unread.length - inbox.capacity := by
  rcases inbox.next_cases with read | behind | ⟨event, rest, unread, kept⟩
  · rw [next_of_nil read, read]
    split <;> simp
  · simp [next_of_behind behind, behind, eq_comm]
  · simp [next_of_cons unread kept, Nat.not_lt.2 kept]

theorem next_eq_event_iff {event : Event} : inbox.next.1 = .event event ↔
    inbox.unread.length ≤ inbox.capacity ∧ inbox.unread.head? = some event := by
  rcases inbox.next_cases with read | behind | ⟨first, rest, unread, kept⟩
  · rw [next_of_nil read, read]
    split <;> simp
  · simp [next_of_behind behind, Nat.not_le.2 behind]
  · rw [next_of_cons unread kept, and_iff_right kept, unread]
    simp

theorem next_eq_empty_iff :
    inbox.next.1 = .empty ↔ inbox.unread = [] ∧ inbox.recorders ≠ 0 := by
  rcases inbox.next_cases with read | behind | ⟨event, rest, unread, kept⟩
  · simp [next_of_nil read, read]
  · have something : inbox.unread ≠ [] := List.ne_nil_of_length_pos (Nat.zero_lt_of_lt behind)
    simp [next_of_behind behind, something]
  · simp [next_of_cons unread kept, unread]

theorem next_eq_closed_iff :
    inbox.next.1 = .closed ↔ inbox.unread = [] ∧ inbox.recorders = 0 := by
  rcases inbox.next_cases with read | behind | ⟨event, rest, unread, kept⟩
  · simp [next_of_nil read, read]
  · have something : inbox.unread ≠ [] := List.ne_nil_of_length_pos (Nat.zero_lt_of_lt behind)
    simp [next_of_behind behind, something]
  · simp [next_of_cons unread kept, unread]

/-! ## What answers account for -/

variable (inbox : Inbox)

/-- What comes next accounts for what is taken from the front. -/
theorem exists_taken : ∃ taken, inbox.unread = taken ++ inbox.next.2 ∧
    ∀ answers events, Spells answers events →
      Spells (inbox.next.1 :: answers) (taken ++ events) := by
  rcases inbox.next_cases with read | behind | ⟨event, rest, unread, kept⟩
  · refine ⟨[], by rw [next_of_nil read, read, List.append_nil], ?_⟩
    intro answers events later
    rw [next_of_nil read, List.nil_append]
    split
    · exact .closed later
    · exact .empty later
  · let lost := inbox.unread.take (inbox.unread.length - inbox.capacity)
    have count : lost.length = inbox.unread.length - inbox.capacity :=
      List.length_take_of_le (Nat.sub_le _ _)
    refine ⟨lost, ?_, ?_⟩
    · rw [next_of_behind behind]
      exact (List.take_append_drop _ _).symm
    · intro answers events later
      rw [next_of_behind behind, ← count]
      exact .lagged lost later
  · refine ⟨[event], by rw [next_of_cons unread kept, unread, List.singleton_append], ?_⟩
    intro answers events later
    rw [next_of_cons unread kept]
    exact .event event later

/-- One signal: what was unread and what is added is what is accounted for, followed by what is
    unread then. -/
theorem exists_taken_of_apply (signal : Signal) : ∃ taken,
    inbox.unread ++ (inbox.recorded? signal).toList = taken ++ (inbox.apply signal).unread ∧
    ∀ answers events, Spells answers events →
      Spells ((inbox.handed? signal).toList ++ answers) (taken ++ events) := by
  cases signal with
  | receive =>
    by_cases gone : inbox.left
    · exact ⟨[], by simp [recorded?, apply, gone], by simp [handed?, gone]⟩
    · obtain ⟨taken, split, spells⟩ := inbox.exists_taken
      exact ⟨taken, by simpa [recorded?, apply, gone] using split,
        by simpa [handed?, gone] using spells⟩
  | record event => exact ⟨[], rfl, fun answers events later => later⟩
  | _ => exact ⟨[], List.append_nil _, fun answers events later => later⟩

/-- The answers spell out the first of the events that were there or came later, and the others
    are unread. -/
theorem answers_spell (signals : List Signal) : ∃ read,
    inbox.unread ++ inbox.recorded signals = read ++ (inbox.after signals).unread ∧
    Spells (inbox.answers signals) read := by
  induction signals generalizing inbox with
  | nil => exact ⟨[], List.append_nil _, .nil⟩
  | cons signal rest ih =>
    obtain ⟨taken, split, spells⟩ := inbox.exists_taken_of_apply signal
    obtain ⟨read, later_split, later⟩ := ih (inbox.apply signal)
    refine ⟨taken ++ read, ?_, spells _ _ later⟩
    calc inbox.unread ++ ((inbox.recorded? signal).toList ++ (inbox.apply signal).recorded rest)
        = taken ++ ((inbox.apply signal).unread ++ (inbox.apply signal).recorded rest) := by
          rw [← List.append_assoc, split, List.append_assoc]
      _ = taken ++ (read ++ ((inbox.apply signal).after rest).unread) := by rw [later_split]
      _ = taken ++ read ++ (inbox.after (signal :: rest)).unread := (List.append_assoc ..).symm

theorem left_after (signals : List Signal) :
    (inbox.after signals).left = true ↔ inbox.left = true ∨ .leave ∈ signals := by
  induction signals generalizing inbox with
  | nil => simp [after]
  | cons signal rest ih =>
    have once : (inbox.apply signal).left = true ↔ inbox.left = true ∨ .leave = signal := by
      cases signal <;> simp [apply]
    rw [after, List.foldl_cons, ← after, ih, once, List.mem_cons, or_assoc]

end Inbox

end FeatureFlags
