import FeatureFlags.Event

/-!
# Broadcasting events

A recorder that hands its events to subscribers. The channel keeps the last events,
as many as its capacity; every subscriber has a position of its own in the sequence of
events, and one that falls behind what is kept is told how many it lost. An event that
nobody subscribes to is dropped.
-/

namespace FeatureFlags

/-- What a subscriber receives. -/
inductive Received
  | event (event : Event)
  /-- So many events were lost; the oldest that is kept comes next. -/
  | lagged (count : Nat)
  /-- Everything has been read. -/
  | empty
  /-- Everything has been read, and no recorder is left to send more. -/
  | closed
  deriving DecidableEq, Inhabited

/-- A channel of events. -/
structure Broadcast where
  capacity : Nat
  /-- The events that are kept, the newest first. -/
  kept : List Event := []
  /-- How many events were sent. -/
  sent : Nat := 0
  /-- How many recorders are left. -/
  recorders : Nat := 1
  /-- The position of every subscriber by its number, `none` once it has left. -/
  positions : List (Option Nat) := []
  deriving Inhabited

namespace Broadcast

/-- The capacity of a recorder that asks for none. -/
def defaultCapacity : Nat := 256

/-- A channel that holds at least the events asked for, and at least one: their number is
    raised to the next power of two. -/
def ofCapacity (asked : Nat) : Broadcast := { capacity := (max asked 1).nextPowerOfTwo }

/-- How many subscribers there are. -/
def subscribers (channel : Broadcast) : Nat := (channel.positions.filter Option.isSome).length

/-- An event is sent. -/
def send (channel : Broadcast) (event : Event) : Broadcast :=
  if channel.recorders = 0 ∨ channel.subscribers = 0 then channel
  else { channel with
    kept := (event :: channel.kept).take channel.capacity
    sent := channel.sent + 1 }

/-- A new subscriber begins with the next event. Its number counts those before it. Where
    no recorder is left there is nothing to subscribe to. -/
def subscribe (channel : Broadcast) : Option Nat × Broadcast :=
  if channel.recorders = 0 then (none, channel)
  else (some channel.positions.length,
    { channel with positions := channel.positions ++ [some channel.sent] })

/-- A subscriber leaves. Tells whether it was there. -/
def unsubscribe (channel : Broadcast) (number : Nat) : Bool × Broadcast :=
  ((channel.positions[number]?).join.isSome,
    { channel with positions := channel.positions.set number none })

/-- One more recorder on the same channel, made from one that is left. -/
def addRecorder (channel : Broadcast) : Broadcast :=
  if channel.recorders = 0 then channel
  else { channel with recorders := channel.recorders + 1 }

/-- A recorder is dropped. -/
def dropRecorder (channel : Broadcast) : Broadcast :=
  { channel with recorders := channel.recorders - 1 }

/-- What a subscriber at a position receives, and its position afterwards. -/
def next (channel : Broadcast) (position : Nat) : Received × Nat :=
  let unread := channel.sent - position
  if unread = 0 then (if channel.recorders = 0 then .closed else .empty, position)
  else if channel.capacity < unread then
    (.lagged (unread - channel.capacity), channel.sent - channel.capacity)
  else
    match channel.kept[unread - 1]? with
    | some event => (.event event, position + 1)
    | none => (.empty, position)

/-- What a subscriber receives; nothing when there is no subscriber of that number. -/
def receive (channel : Broadcast) (number : Nat) : Option Received × Broadcast :=
  match (channel.positions[number]?).join with
  | none => (none, channel)
  | some position =>
    let (received, position) := channel.next position
    (some received, { channel with positions := channel.positions.set number (some position) })

end Broadcast

/-! ## Steps -/

/-- What is done with a channel. -/
inductive BroadcastStep
  | record (event : Event)
  | subscribe
  | unsubscribe (number : Nat)
  /-- One more recorder. -/
  | clone
  /-- One recorder less. -/
  | close
  | receive (number : Nat)
  deriving DecidableEq

/-- What a step answers. -/
inductive BroadcastAnswer
  | done
  | subscribed (number : Option Nat)
  | unsubscribed (was : Bool)
  | received (received : Option Received)
  deriving DecidableEq

namespace Broadcast

def perform (channel : Broadcast) : BroadcastStep → BroadcastAnswer × Broadcast
  | .record event => (.done, channel.send event)
  | .subscribe => channel.subscribe.map .subscribed id
  | .unsubscribe number => (channel.unsubscribe number).map .unsubscribed id
  | .clone => (.done, channel.addRecorder)
  | .close => (.done, channel.dropRecorder)
  | .receive number => (channel.receive number).map .received id

/-- The channel after some steps. -/
def after (channel : Broadcast) (steps : List BroadcastStep) : Broadcast :=
  steps.foldl (fun channel step => (channel.perform step).2) channel

end Broadcast

end FeatureFlags
