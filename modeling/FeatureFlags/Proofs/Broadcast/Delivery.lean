import FeatureFlags.Proofs.Broadcast.Inbox
import Mathlib.Data.List.Induction
import Mathlib.Data.List.Infix

/-!
# Every event to every subscriber

A channel keeps the last events once for all of its subscribers, and of each of them only a
position. To each subscriber it is a queue of its own nevertheless (`Broadcast.Follows`): the last
events sent, from its position on, are those that are unread, and what the others do does not
move it. How many recorders are left, and so what is recorded at all, can be told from the steps
(`Broadcast.recordersLeft`).
-/

namespace FeatureFlags

/-- How many recorders there are after a step. Where none is left there is none to clone. -/
def BroadcastStep.recorders (before : Nat) : BroadcastStep → Nat
  | .clone => if before = 0 then 0 else before + 1
  | .close => before - 1
  | _ => before

namespace Broadcast

/-- How many recorders are left after all steps since the channel was made: the one there was and
    those cloned but for those closed, and none for ever once all of them were closed. -/
def recordersLeft (steps : List BroadcastStep) : Nat :=
  if ∀ early ∈ steps.inits, early.count .close ≤ early.count .clone then
    1 + steps.count .clone - steps.count .close
  else 0

/-- The events that are recorded by steps after others: those for which a recorder was left. -/
def recordedAfter : List BroadcastStep → List BroadcastStep → List Event
  | _, [] => []
  | past, .record event :: rest =>
    (if recordersLeft past = 0 then [] else [event]) ++
      recordedAfter (past ++ [.record event]) rest
  | past, step :: rest => recordedAfter (past ++ [step]) rest

/-- The event that a step adds to a channel. Without a recorder there is none. -/
def recorded? (channel : Broadcast) : BroadcastStep → Option Event
  | .record event => if channel.recorders = 0 then none else some event
  | _ => none

/-- The events that a channel records in the course of steps. -/
def recorded : Broadcast → List BroadcastStep → List Event
  | _, [] => []
  | channel, step :: rest =>
    (channel.recorded? step).toList ++ (channel.perform step).2.recorded rest

/-- What a step brings one subscriber. -/
def handed? (channel : Broadcast) (number : Nat) (step : BroadcastStep) : Option Received :=
  if step = .receive number then (channel.receive number).1 else none

/-- The answers that a subscriber gets in the course of steps. -/
def answers (number : Nat) : Broadcast → List BroadcastStep → List Received
  | _, [] => []
  | channel, step :: rest =>
    (channel.handed? number step).toList ++ (channel.perform step).2.answers number rest

/-- The channel has sent these events, and has kept the last of them. -/
structure Keeps (channel : Broadcast) (history : List Event) : Prop where
  sent : channel.sent = history.length
  kept : channel.kept = history.reverse.take channel.capacity

/-- Two channels that have sent and kept the same events. -/
structure Alike (channel other : Broadcast) : Prop where
  capacity : other.capacity = channel.capacity
  sent : other.sent = channel.sent
  kept : other.kept = channel.kept

/-- Where a subscriber is: the last events sent are unread and its position is where they begin,
    or it has left and there is no position. -/
inductive Place (channel : Broadcast) (number : Nat) (inbox : Inbox) : Prop
  | reading {history : List Event} (present : inbox.left = false) (keeps : channel.Keeps history)
      (last : inbox.unread <:+ history)
      (position : channel.positions[number]? = some (some (channel.sent - inbox.unread.length)))
  | gone (left : inbox.left = true) (nowhere : channel.positions[number]? = some none)

/-- To a subscriber the channel is an inbox. -/
structure Follows (channel : Broadcast) (number : Nat) (inbox : Inbox) : Prop where
  capacity : inbox.capacity = channel.capacity
  recorders : inbox.recorders = channel.recorders
  place : channel.Place number inbox

variable {channel other joined : Broadcast} {number : Nat} {inbox : Inbox} {history : List Event}

/-! ## The recorders that are left -/

theorem recordersLeft_concat (steps : List BroadcastStep) (step : BroadcastStep) :
    recordersLeft (steps ++ [step]) = step.recorders (recordersLeft steps) := by
  have inits : (steps ++ [step]).inits = steps.inits ++ [steps ++ [step]] := by
    simp [List.inits_append]
  unfold recordersLeft
  simp only [inits, List.forall_mem_append, List.forall_mem_singleton, List.count_append]
  by_cases always : ∀ early ∈ steps.inits, early.count .close ≤ early.count .clone
  · have now : steps.count .close ≤ steps.count .clone := always steps (by simp)
    simp only [if_pos always, and_iff_right always]
    cases step with
    | clone =>
      have added : [BroadcastStep.clone].count .clone = 1 ∧ [BroadcastStep.clone].count .close = 0 :=
        ⟨rfl, rfl⟩
      rw [added.1, added.2, if_pos (by omega), BroadcastStep.recorders, if_neg (by omega)]
      omega
    | close =>
      have taken : [BroadcastStep.close].count .clone = 0 ∧ [BroadcastStep.close].count .close = 1 :=
        ⟨rfl, rfl⟩
      rw [taken.1, taken.2, BroadcastStep.recorders]
      split <;> omega
    | _ => exact if_pos now
  · -- Once all of them were closed the steps have a beginning that says so, whatever comes.
    rw [if_neg always, if_neg fun both => always both.1]
    cases step <;> rfl

@[simp] theorem recorders_send (channel : Broadcast) (event : Event) :
    (channel.send event).recorders = channel.recorders := by
  unfold send
  split <;> rfl

theorem recorders_addRecorder (channel : Broadcast) : channel.addRecorder.recorders =
    if channel.recorders = 0 then 0 else channel.recorders + 1 := by
  unfold addRecorder
  split
  · assumption
  · rfl

theorem recorders_receive (channel : Broadcast) (number : Nat) :
    (channel.receive number).2.recorders = channel.recorders := by
  unfold receive
  split <;> rfl

theorem recorders_perform (channel : Broadcast) (step : BroadcastStep) :
    (channel.perform step).2.recorders = step.recorders channel.recorders := by
  cases step with
  | record event => exact channel.recorders_send event
  | subscribe =>
    simp only [perform, subscribe, Prod.map_snd, id]
    split <;> rfl
  | unsubscribe number => rfl
  | clone => exact channel.recorders_addRecorder
  | close => rfl
  | receive number => exact channel.recorders_receive number

theorem after_append (channel : Broadcast) (steps later : List BroadcastStep) :
    channel.after (steps ++ later) = (channel.after steps).after later :=
  List.foldl_append

theorem after_concat (channel : Broadcast) (steps : List BroadcastStep) (step : BroadcastStep) :
    channel.after (steps ++ [step]) = ((channel.after steps).perform step).2 :=
  channel.after_append steps [step]

/-- The channel counts its recorders as the steps tell. -/
theorem recorders_after (asked : Nat) (steps : List BroadcastStep) :
    ((ofCapacity asked).after steps).recorders = recordersLeft steps := by
  induction steps using List.reverseRecOn with
  | nil => rfl
  | append_singleton steps step ih =>
    rw [after_concat, recorders_perform, ih, recordersLeft_concat]

theorem recorded_eq (asked : Nat) (past steps : List BroadcastStep) :
    ((ofCapacity asked).after past).recorded steps = recordedAfter past steps := by
  induction steps generalizing past with
  | nil => rfl
  | cons step rest ih =>
    have later := ih (past ++ [step])
    rw [after_concat] at later
    rw [recorded, later]
    cases step with
    | record event =>
      rw [recorded?, recorders_after, recordedAfter]
      split <;> rfl
    | _ => rfl

/-! ## The events that are kept -/

@[simp] theorem capacity_send (channel : Broadcast) (event : Event) :
    (channel.send event).capacity = channel.capacity := by
  unfold send
  split <;> rfl

@[simp] theorem positions_send (channel : Broadcast) (event : Event) :
    (channel.send event).positions = channel.positions := by
  unfold send
  split <;> rfl

theorem keeps_ofCapacity (asked : Nat) : (ofCapacity asked).Keeps [] :=
  ⟨rfl, List.take_nil.symm⟩

theorem Keeps.of_alike (keeps : channel.Keeps history) (alike : channel.Alike other) :
    other.Keeps history :=
  ⟨alike.sent.trans keeps.sent, by rw [alike.kept, keeps.kept, alike.capacity]⟩

theorem positions_addRecorder (channel : Broadcast) :
    channel.addRecorder.positions = channel.positions := by
  unfold addRecorder
  split <;> rfl

theorem positions_receive_of_ne (channel : Broadcast) {other number : Nat}
    (another : other ≠ number) :
    (channel.receive other).2.positions[number]? = channel.positions[number]? := by
  unfold receive
  split
  · rfl
  · exact List.getElem?_set_ne another

/-- An event that somebody may receive is the last one sent then. -/
theorem Keeps.send (keeps : channel.Keeps history) (event : Event)
    (heard : ¬ (channel.recorders = 0 ∨ channel.subscribers = 0)) :
    (channel.send event).Keeps (history ++ [event]) := by
  have once_more : (event :: history.reverse.take channel.capacity).take channel.capacity =
      (event :: history.reverse).take channel.capacity := by
    cases channel.capacity <;> simp [List.take_take]
  unfold Broadcast.send
  rw [if_neg heard]
  refine ⟨?_, ?_⟩
  · simp only [keeps.sent, List.length_append, List.length_singleton]
  · simp only [keeps.kept, once_more, List.reverse_append, List.reverse_singleton,
      List.singleton_append]

/-- Nothing but recording changes the events. -/
theorem alike_perform (step : BroadcastStep) (quiet : ∀ event, step ≠ .record event) :
    channel.Alike (channel.perform step).2 := by
  cases step with
  | record event => exact absurd rfl (quiet event)
  | subscribe =>
    simp only [perform, subscribe, Prod.map_snd, id]
    split <;> exact ⟨rfl, rfl, rfl⟩
  | unsubscribe number => exact ⟨rfl, rfl, rfl⟩
  | clone =>
    simp only [perform, addRecorder]
    split <;> exact ⟨rfl, rfl, rfl⟩
  | close => exact ⟨rfl, rfl, rfl⟩
  | receive number =>
    simp only [perform, receive, Prod.map_snd, id]
    split <;> exact ⟨rfl, rfl, rfl⟩

theorem capacity_perform (channel : Broadcast) (step : BroadcastStep) :
    (channel.perform step).2.capacity = channel.capacity := by
  cases step with
  | record event => exact channel.capacity_send event
  | _ => exact (alike_perform _ (by simp)).capacity

theorem capacity_after (channel : Broadcast) (steps : List BroadcastStep) :
    (channel.after steps).capacity = channel.capacity := by
  induction steps generalizing channel with
  | nil => rfl
  | cons step rest ih => rw [after, List.foldl_cons, ← after, ih, capacity_perform]

theorem Keeps.perform (keeps : channel.Keeps history) (step : BroadcastStep) :
    ∃ history, (channel.perform step).2.Keeps history := by
  by_cases recording : ∃ event, step = .record event
  · obtain ⟨event, rfl⟩ := recording
    by_cases heard : channel.recorders = 0 ∨ channel.subscribers = 0
    · exact ⟨history, by rwa [Broadcast.perform, Broadcast.send, if_pos heard]⟩
    · exact ⟨history ++ [event], keeps.send event heard⟩
  · exact ⟨history, keeps.of_alike (alike_perform step (not_exists.1 recording))⟩

theorem Keeps.after (keeps : channel.Keeps history) (steps : List BroadcastStep) :
    ∃ history, (channel.after steps).Keeps history := by
  induction steps generalizing channel history with
  | nil => exact ⟨history, keeps⟩
  | cons step rest ih =>
    obtain ⟨_, next⟩ := keeps.perform step
    exact ih next

/-! ## Reading -/

/-- The oldest unread event is kept as long as there are no more than the channel keeps. -/
theorem Keeps.getElem? {event : Event} {rest : List Event} (keeps : channel.Keeps history)
    (last : event :: rest <:+ history) (few : (event :: rest).length ≤ channel.capacity) :
    channel.kept[rest.length]? = some event := by
  obtain ⟨past, rfl⟩ := last
  have within : rest.length < channel.capacity := few
  rw [keeps.kept, List.getElem?_take_of_lt within]
  simp

/-- Where the last events sent are unread, what is received is what comes next in the inbox. -/
theorem next_of_keeps (keeps : channel.Keeps history) (last : inbox.unread <:+ history)
    (capacity : inbox.capacity = channel.capacity)
    (recorders : inbox.recorders = channel.recorders) :
    channel.next (channel.sent - inbox.unread.length) =
      (inbox.next.1, channel.sent - inbox.next.2.length) := by
  have inside : inbox.unread.length ≤ channel.sent := keeps.sent ▸ last.length_le
  have count : channel.sent - (channel.sent - inbox.unread.length) = inbox.unread.length := by omega
  unfold Broadcast.next
  simp only [count, ← capacity, ← recorders]
  rcases inbox.next_cases with read | behind | ⟨event, rest, unread, few⟩
  · have nothing : inbox.unread.length = 0 := by rw [read, List.length_nil]
    rw [Inbox.next_of_nil read, if_pos nothing, nothing, List.length_nil]
  · have something : inbox.unread.length ≠ 0 := Nat.ne_zero_of_lt behind
    have remaining :
        inbox.unread.length - (inbox.unread.length - inbox.capacity) = inbox.capacity := by
      omega
    rw [Inbox.next_of_behind behind, if_neg something, if_pos behind, List.length_drop, remaining]
  · have length : inbox.unread.length = rest.length + 1 := by rw [unread, List.length_cons]
    have kept : channel.kept[inbox.unread.length - 1]? = some event := by
      rw [length, Nat.add_sub_cancel]
      exact keeps.getElem? (unread ▸ last) (by rw [← unread, ← capacity]; exact few)
    have position : channel.sent - inbox.unread.length + 1 = channel.sent - rest.length := by omega
    rw [Inbox.next_of_cons unread few, if_neg (by omega), if_neg (Nat.not_lt.2 few), kept, position]

/-! ## One step -/

/-- A subscriber that has not left is one of those that events are sent to. -/
theorem subscribers_ne_zero {position : Nat}
    (here : channel.positions[number]? = some (some position)) : channel.subscribers ≠ 0 := by
  have member : some position ∈ channel.positions.filter Option.isSome :=
    List.mem_filter.2 ⟨List.mem_of_getElem? here, rfl⟩
  exact Nat.ne_zero_of_lt (List.length_pos_of_mem member)

theorem Place.lt_length (place : channel.Place number inbox) :
    number < channel.positions.length := by
  cases place with
  | reading _ _ _ position => exact (List.getElem?_eq_some_iff.1 position).1
  | gone _ nowhere => exact (List.getElem?_eq_some_iff.1 nowhere).1

/-- What leaves the events, the position and what is unread alone leaves the place alone. -/
theorem Place.carry {later : Inbox} (place : channel.Place number inbox)
    (alike : channel.Alike other)
    (position : other.positions[number]? = channel.positions[number]?)
    (unread : later.unread = inbox.unread) (left : later.left = inbox.left) :
    other.Place number later := by
  cases place with
  | reading present keeps last here =>
    refine .reading (left.trans present) (keeps.of_alike alike) (unread ▸ last) ?_
    rw [position, here, alike.sent, unread]
  | gone away nowhere => exact .gone (left.trans away) (position.trans nowhere)

namespace Follows

theorem send (follows : channel.Follows number inbox) (event : Event) :
    (channel.send event).Follows number (inbox.apply (.record event)) := by
  by_cases shut : channel.recorders = 0
  · have dropped : channel.send event = channel := if_pos (.inl shut)
    rwa [dropped, Inbox.apply_record_of_shut (follows.recorders.trans shut)]
  · rw [Inbox.apply_record_of_open (follows.recorders ▸ shut)]
    obtain ⟨capacity, recorders, place⟩ := follows
    refine ⟨by simpa using capacity, by simpa using recorders, ?_⟩
    cases place with
    | reading present keeps last position =>
      have sent : (channel.send event).Keeps _ :=
        keeps.send event (not_or.2 ⟨shut, subscribers_ne_zero position⟩)
      refine .reading present sent ((List.suffix_append_inj_of_length_eq rfl).2 ⟨last, rfl⟩) ?_
      rw [positions_send, position, sent.sent, keeps.sent, List.length_append, List.length_append,
        Nat.add_sub_add_right]
    | gone left nowhere => exact .gone left (by simpa using nowhere)

theorem receive (follows : channel.Follows number inbox) :
    (channel.receive number).1 = inbox.handed? .receive ∧
    (channel.receive number).2.Follows number (inbox.apply .receive) := by
  obtain ⟨capacity, recorders, place⟩ := follows
  have inside := place.lt_length
  cases place with
  | reading present keeps last position =>
    have next := next_of_keeps keeps last capacity recorders
    have received : channel.receive number = (some inbox.next.1, { channel with
        positions := channel.positions.set number (some (channel.sent - inbox.next.2.length)) }) := by
      simp only [Broadcast.receive, position, Option.join_some, next]
    have handed : inbox.handed? .receive = some inbox.next.1 := by simp [Inbox.handed?, present]
    have taken : inbox.apply .receive = { inbox with unread := inbox.next.2 } := by
      simp [Inbox.apply, present]
    obtain ⟨_, split, -⟩ := inbox.exists_taken
    have shorter : inbox.next.2 <:+ inbox.unread := ⟨_, split.symm⟩
    rw [received, handed, taken]
    refine ⟨rfl, capacity, recorders, ?_⟩
    exact .reading present ⟨keeps.sent, keeps.kept⟩ (shorter.trans last)
      (List.getElem?_set_self inside)
  | gone left nowhere =>
    have nothing : channel.receive number = (none, channel) := by
      simp only [Broadcast.receive, nowhere, Option.join_some]
    have unchanged : inbox.apply .receive = inbox := by simp only [Inbox.apply, if_pos left]
    rw [nothing, unchanged]
    exact ⟨by simp [Inbox.handed?, left], capacity, recorders, .gone left nowhere⟩

theorem leave (follows : channel.Follows number inbox) :
    (channel.unsubscribe number).2.Follows number (inbox.apply .leave) := by
  obtain ⟨capacity, recorders, place⟩ := follows
  exact ⟨capacity, recorders, .gone rfl (List.getElem?_set_self place.lt_length)⟩

/-- One step does to the channel what its signal does to the inbox, brings the subscriber the
    same and records the same. -/
theorem perform (follows : channel.Follows number inbox) (step : BroadcastStep) :
    (channel.perform step).2.Follows number ((step.signal? number).elim inbox inbox.apply) ∧
    channel.handed? number step = (step.signal? number).bind inbox.handed? ∧
    channel.recorded? step = (step.signal? number).bind inbox.recorded? := by
  obtain ⟨capacity, recorders, place⟩ := id follows
  cases step with
  | record event =>
    refine ⟨follows.send event, rfl, ?_⟩
    simp only [recorded?, BroadcastStep.signal?, Option.bind_some, Inbox.recorded?, recorders]
  | subscribe =>
    refine ⟨?_, rfl, rfl⟩
    show channel.subscribe.2.Follows number inbox
    unfold subscribe
    split
    · exact follows
    · exact ⟨capacity, recorders, place.carry ⟨rfl, rfl, rfl⟩
        (List.getElem?_append_left place.lt_length) rfl rfl⟩
  | unsubscribe other =>
    by_cases own : other = number
    · subst own
      rw [BroadcastStep.signal?_unsubscribe_self]
      exact ⟨follows.leave, rfl, rfl⟩
    · rw [BroadcastStep.signal?_unsubscribe_of_ne own]
      exact ⟨⟨capacity, recorders, place.carry ⟨rfl, rfl, rfl⟩ (List.getElem?_set_ne own) rfl rfl⟩,
        rfl, rfl⟩
  | clone =>
    have alike : channel.Alike channel.addRecorder := alike_perform .clone (by simp)
    refine ⟨⟨capacity.trans alike.capacity.symm, ?_, place.carry alike ?_ rfl rfl⟩, rfl, rfl⟩
    · show (if inbox.recorders = 0 then 0 else inbox.recorders + 1) = channel.addRecorder.recorders
      rw [recorders_addRecorder, recorders]
    · show channel.addRecorder.positions[number]? = channel.positions[number]?
      rw [positions_addRecorder]
  | close =>
    exact ⟨⟨capacity, congrArg (· - 1) recorders, place.carry ⟨rfl, rfl, rfl⟩ rfl rfl rfl⟩, rfl, rfl⟩
  | receive other =>
    by_cases own : other = number
    · subst own
      obtain ⟨received, later⟩ := follows.receive
      rw [BroadcastStep.signal?_receive_self]
      exact ⟨later, (if_pos rfl).trans received, rfl⟩
    · have another : BroadcastStep.receive other ≠ .receive number := by simpa using own
      have alike : channel.Alike (channel.receive other).2 :=
        alike_perform (.receive other) (by simp)
      rw [BroadcastStep.signal?_receive_of_ne own]
      refine ⟨⟨capacity.trans alike.capacity.symm, ?_, place.carry alike ?_ rfl rfl⟩,
        if_neg another, rfl⟩
      · exact recorders.trans (recorders_receive channel other).symm
      · exact positions_receive_of_ne channel own

end Follows

/-! ## All steps -/

/-- The signals of steps to one subscriber. -/
def signals (number : Nat) (steps : List BroadcastStep) : List Signal :=
  steps.filterMap (·.signal? number)

/-- In the course of steps the channel does what the inbox does in the course of the signals. -/
theorem Follows.run (follows : channel.Follows number inbox) (steps : List BroadcastStep) :
    (channel.after steps).Follows number (inbox.after (signals number steps)) ∧
    channel.answers number steps = inbox.answers (signals number steps) ∧
    channel.recorded steps = inbox.recorded (signals number steps) := by
  induction steps generalizing channel inbox with
  | nil => exact ⟨follows, rfl, rfl⟩
  | cons step rest ih =>
    obtain ⟨next, handed, recorded⟩ := follows.perform step
    obtain ⟨last, answered, later⟩ := ih next
    rw [answers, Broadcast.recorded, handed, recorded, answered, later]
    unfold signals
    cases bears : step.signal? number with
    | none =>
      rw [List.filterMap_cons_none bears]
      rw [bears] at last
      exact ⟨last, rfl, rfl⟩
    | some signal =>
      rw [List.filterMap_cons_some bears]
      rw [bears] at last
      exact ⟨last, rfl, rfl⟩

/-- A new subscriber has an empty inbox. -/
theorem Keeps.subscribe (keeps : channel.Keeps history)
    (subscribed : channel.subscribe = (some number, joined)) :
    joined.Follows number ⟨channel.capacity, joined.recorders, [], false⟩ := by
  unfold Broadcast.subscribe at subscribed
  split at subscribed
  · cases subscribed
  · cases subscribed
    refine ⟨rfl, rfl, .reading rfl ⟨keeps.sent, keeps.kept⟩ List.nil_suffix ?_⟩
    simp

theorem leave_mem_signals_iff {steps : List BroadcastStep} :
    .leave ∈ signals number steps ↔ .unsubscribe number ∈ steps := by
  unfold signals
  simp only [List.mem_filterMap, BroadcastStep.signal?_eq_leave_iff, exists_eq_right]

theorem eq_after_of_subscribe {asked : Nat} {before : List BroadcastStep}
    (subscribed : ((ofCapacity asked).after before).subscribe = (some number, joined)) :
    joined = (ofCapacity asked).after (before ++ [.subscribe]) := by
  rw [after_concat]
  exact (congrArg Prod.snd subscribed).symm

/-- What a new subscriber finds is settled by the capacity and the recorders that were left. -/
theorem follows_of_subscribe {asked : Nat} {before : List BroadcastStep}
    (subscribed : ((ofCapacity asked).after before).subscribe = (some number, joined)) :
    joined.Follows number
      ⟨(max asked 1).nextPowerOfTwo, recordersLeft before, [], false⟩ := by
  have left : joined.recorders = recordersLeft before := by
    rw [eq_after_of_subscribe subscribed, recorders_after, recordersLeft_concat]
    rfl
  obtain ⟨_, keeps⟩ := (keeps_ofCapacity asked).after before
  have follows := keeps.subscribe subscribed
  rwa [capacity_after, left] at follows

/-- A subscriber and whatever steps have come since. Its answers spell out the first of the events
    recorded since, in order, and the others are unread. What it is answered next is settled by
    these: it has lost events if more are unread than the channel keeps, as many as are too many,
    and is otherwise given the first of them; only when everything has been read there is nothing
    for it, and whether that is for good depends on a recorder being left of the one there was at
    first and those cloned. No step of another subscriber makes a difference: in another history
    the answers are the same if as many recorders were left and the signals are the same. -/
theorem answers_of_subscriber {asked : Nat} {before : List BroadcastStep}
    (subscribed : ((ofCapacity asked).after before).subscribe = (some number, joined))
    (steps : List BroadcastStep) :
    let keeps := (max asked 1).nextPowerOfTwo
    let left := recordersLeft (before ++ .subscribe :: steps)
    let channel := joined.after steps
    let answers := joined.answers number steps
    (∃ read unread, recordedAfter (before ++ [.subscribe]) steps = read ++ unread ∧
      Spells answers read ∧
      (.unsubscribe number ∈ steps → (channel.perform (.receive number)).1 = .received none) ∧
      (.unsubscribe number ∉ steps →
        ∃ answer, (channel.perform (.receive number)).1 = .received (some answer) ∧
          (∀ event, answer = .event event ↔
            unread.length ≤ keeps ∧ unread.head? = some event) ∧
          (∀ count, answer = .lagged count ↔
            keeps < unread.length ∧ count = unread.length - keeps) ∧
          (answer = .empty ↔ unread = [] ∧ left ≠ 0) ∧
          (answer = .closed ↔ unread = [] ∧ left = 0))) ∧
    ∀ before' number' joined' steps',
      ((ofCapacity asked).after before').subscribe = (some number', joined') →
      recordersLeft before' = recordersLeft before →
      signals number' steps' = signals number steps →
      joined'.answers number' steps' = answers := by
  intro keeps left channel answers
  let first : Inbox := ⟨keeps, recordersLeft before, [], false⟩
  have begun : joined.Follows number first := follows_of_subscribe subscribed
  have joined_eq := eq_after_of_subscribe subscribed
  obtain ⟨follows, answered, recorded⟩ := begun.run steps
  refine ⟨?_, ?_⟩
  · let inbox := first.after (signals number steps)
    obtain ⟨read, split, spells⟩ := first.answers_spell (signals number steps)
    rw [← recorded, joined_eq, recorded_eq] at split
    rw [← answered] at spells
    have gone : inbox.left = true ↔ .unsubscribe number ∈ steps := by
      rw [← leave_mem_signals_iff, Inbox.left_after]
      simp [first]
    have capacity : inbox.capacity = keeps := by
      rw [follows.capacity, capacity_after, ← begun.capacity]
    have recorders : inbox.recorders = left := by
      rw [follows.recorders, joined_eq, ← after_append, recorders_after, List.append_assoc,
        List.singleton_append]
    have received : (channel.perform (.receive number)).1 = .received (inbox.handed? .receive) :=
      congrArg BroadcastAnswer.received follows.receive.1
    refine ⟨read, inbox.unread, split, spells, ?_, ?_⟩
    · intro away
      rw [received, Inbox.handed?, if_pos (gone.2 away)]
    · intro present
      rw [received, Inbox.handed?, if_neg (fun away => present (gone.1 away)), ← capacity,
        ← recorders]
      exact ⟨_, rfl, fun _ => Inbox.next_eq_event_iff, fun _ => Inbox.next_eq_lagged_iff,
        Inbox.next_eq_empty_iff, Inbox.next_eq_closed_iff⟩
  · intro before' number' joined' steps' subscribed' recorders same
    obtain ⟨-, answered', -⟩ := (follows_of_subscribe subscribed').run steps'
    rw [answered', recorders, same, ← answered]

/-- A channel that keeps one event, and a second subscriber that comes to read when there have
    been three. It finds two of them lost, then the third, then nothing, since of two recorders
    one is left, and in the end the channel closed, with no event recorded any more. That the
    first subscriber reads and leaves in the meantime makes no difference. -/
theorem answers_of_subscriber_behind :
    let note (text : String) : Event := ⟨.normal, "Changed", text⟩
    let before : List BroadcastStep := [.subscribe, .record (note "x")]
    let early : List BroadcastStep := [.clone, .record (note "a"), .receive 0,
      .record (note "b"), .unsubscribe 0, .close, .record (note "c"), .receive 1, .receive 1]
    let late : List BroadcastStep := early ++ [.receive 1, .close, .record (note "d")]
    let alone : List BroadcastStep := [.clone, .record (note "a"), .record (note "b"), .close,
      .record (note "c"), .receive 0, .receive 0, .receive 0, .close, .record (note "d")]
    let joined := ((ofCapacity 0).after before).subscribe.2
    let joined' := ((ofCapacity 0).after []).subscribe.2
    ((ofCapacity 0).after before).subscribe = (some 1, joined) ∧
      ((ofCapacity 0).after []).subscribe = (some 0, joined') ∧
      joined.answers 1 late = [.lagged 2, .event (note "c"), .empty] ∧
      joined'.answers 0 alone = [.lagged 2, .event (note "c"), .empty] ∧
      ((joined.after early).perform (.receive 1)).1 = .received (some .empty) ∧
      recordersLeft (before ++ .subscribe :: early) ≠ 0 ∧
      ((joined.after late).perform (.receive 1)).1 = .received (some .closed) ∧
      recordersLeft (before ++ .subscribe :: late) = 0 ∧
      Spells [.lagged 2, .event (note "c"), .empty] [note "a", note "b", note "c"] := by
  intro note before early late alone joined joined'
  have subscribed : ((ofCapacity 0).after before).subscribe = (some 1, joined) :=
    Prod.ext (by decide +kernel) rfl
  have subscribed' : ((ofCapacity 0).after []).subscribe = (some 0, joined') :=
    Prod.ext (by decide +kernel) rfl
  have told : joined.answers 1 late = [.lagged 2, .event (note "c"), .empty] := by decide +kernel
  have waits : ((joined.after early).perform (.receive 1)).1 = .received (some .empty) := by
    decide +kernel
  have ended : ((joined.after late).perform (.receive 1)).1 = .received (some .closed) := by
    decide +kernel
  have three : recordedAfter (before ++ [.subscribe]) late = [note "a", note "b", note "c"] := by
    decide +kernel
  obtain ⟨⟨_, _, -, -, -, next⟩, -⟩ := answers_of_subscriber subscribed early
  obtain ⟨answer, received, -, -, empty, -⟩ := next (by decide +kernel)
  rw [waits, BroadcastAnswer.received.injEq, Option.some.injEq] at received
  obtain ⟨-, some_left⟩ := empty.1 received.symm
  obtain ⟨⟨read, unread, split, spells, -, next'⟩, same⟩ := answers_of_subscriber subscribed late
  obtain ⟨answer', received', -, -, -, closed⟩ := next' (by decide +kernel)
  rw [ended, BroadcastAnswer.received.injEq, Option.some.injEq] at received'
  obtain ⟨all_read, none_left⟩ := closed.1 received'.symm
  rw [told] at same spells
  have told' := same [] 0 joined' alone subscribed' (by decide +kernel) (by decide +kernel)
  rw [three, all_read, List.append_nil] at split
  rw [← split] at spells
  exact ⟨subscribed, subscribed', told, told', waits, some_left, ended, none_left, spells⟩

end Broadcast

end FeatureFlags
