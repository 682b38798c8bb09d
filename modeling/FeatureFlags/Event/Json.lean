import FeatureFlags.Event
import FeatureFlags.Json.Decode
import FeatureFlags.Timestamp

/-!
# Events as JSON

An event that has been recorded carries the time of its recording. Its JSON is an
object of four members.
-/

namespace FeatureFlags

/-- An event and when it was recorded. -/
structure StampedEvent where
  event : Event
  timestamp : Timestamp
  deriving DecidableEq

namespace EventKind

def toJson (kind : EventKind) : Json := .string kind.name

def ofName? (name : String) : Option EventKind :=
  [normal, warning].find? (·.name = name)

def ofWord (word : String) : Except DecodeError EventKind :=
  Decoder.require (.unknownWord word (["Normal", "Warning"])) (ofName? word)

/-- A kind is its name, or an object with the name for its one key and `null` for its
    value. -/
def ofJson : Decoder EventKind
  | .string word => ofWord word
  | .object members =>
    match members.toList with
    | [(word, value)] => do
      let kind ← ofWord word
      if value = .null then .ok kind else .error (.wrongKind value "unit")
    | _ => .error .notSingle
  | other => .error (.wrongKind other "string or map")

end EventKind

namespace Timestamp

def ofJson : Decoder Timestamp := fun value => do
  Decoder.require .notTimestamp (ofText? (← Decoder.string value))

end Timestamp

namespace StampedEvent

def toJson (e : StampedEvent) : Json :=
  .ofMembers [("type", e.event.kind.toJson), ("reason", .string e.event.reason),
    ("message", .string e.event.message), ("timestamp", .string e.timestamp.render)]

/-- No field has a default. -/
def ofJson : Decoder StampedEvent
  | .object members => do
    let message ← Decoder.member? members "message" Decoder.string
    let reason ← Decoder.member? members "reason" Decoder.string
    let timestamp ← Decoder.member? members "timestamp" Timestamp.ofJson
    let kind ← Decoder.member? members "type" EventKind.ofJson
    let kind ← Decoder.require (.missingField "type") kind
    let reason ← Decoder.require (.missingField "reason") reason
    let message ← Decoder.require (.missingField "message") message
    let timestamp ← Decoder.require (.missingField "timestamp") timestamp
    return ⟨⟨kind, reason, message⟩, timestamp⟩
  | .array items => do
    let kind ← Decoder.item? items 0 EventKind.ofJson
    let kind ← Decoder.require (.tooShort 0 "Event" 4) kind
    let reason ← Decoder.item? items 1 Decoder.string
    let reason ← Decoder.require (.tooShort 1 "Event" 4) reason
    let message ← Decoder.item? items 2 Decoder.string
    let message ← Decoder.require (.tooShort 2 "Event" 4) message
    let timestamp ← Decoder.item? items 3 Timestamp.ofJson
    let timestamp ← Decoder.require (.tooShort 3 "Event" 4) timestamp
    Decoder.atMost 4 items
    return ⟨⟨kind, reason, message⟩, timestamp⟩
  | other => .error (.wrongKind other "struct Event")

def shape : Shape :=
  .record false [("type", .variant), ("reason", .whole), ("message", .whole),
    ("timestamp", .whole)]

end StampedEvent

end FeatureFlags
