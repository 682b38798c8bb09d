import FeatureFlags.Event.Json
import FeatureFlags.Proofs.Json.Decode
import FeatureFlags.Proofs.Timestamp.Grammar

/-!
# Events written and read back

Which JSON values encode an event, and which event each of them encodes: a record of four fields
in either form, with the kind as a word or as the one key of an object, and with the time in any of
its spellings. An event is written in one way, which encodes it (`StampedEvent.encodedBy_toJson`);
so what is written of an event that was read is a normal form of what it was read from
(`StampedEvent.ofJson_normalises`).
-/

namespace FeatureFlags

open Decoder

namespace EventKind

/-- A word, or an object with the word for its one key and null for its value. -/
inductive EncodedBy : EventKind → Json → Prop
  | word (kind : EventKind) : EncodedBy kind (.string kind.name)
  | key (kind : EventKind) : EncodedBy kind (.ofMembers [(kind.name, .null)])

theorem ofWord_eq_ok_iff {word : String} {kind : EventKind} :
    ofWord word = .ok kind ↔ word = kind.name := by
  rw [ofWord, require_eq_ok_iff, ofName?]
  constructor
  · intro found
    simpa [eq_comm] using List.find?_some found
  · rintro rfl
    cases kind <;> rfl

theorem ofJson_eq_ok_iff {v : Json} {kind : EventKind} :
    ofJson v = .ok kind ↔ kind.EncodedBy v := by
  constructor
  · intro decoded
    cases v with
    | string word =>
      rw [ofWord_eq_ok_iff.1 decoded]
      exact .word kind
    | object members =>
      rw [ofJson] at decoded
      split at decoded
      · next word value listed =>
        obtain ⟨kind', named, decoded⟩ := bind_eq_ok_iff.1 decoded
        split at decoded
        · next null =>
          cases decoded
          rw [null, ofWord_eq_ok_iff.1 named] at listed
          rw [Tree.toList_eq_singleton_iff.1 listed]
          exact .key kind
        · cases decoded
      · cases decoded
    | _ => cases decoded
  · rintro (_ | _)
    · exact ofWord_eq_ok_iff.2 rfl
    · cases kind <;> rfl

end EventKind

theorem Timestamp.ofJson_eq_ok_iff {v : Json} {stamp : Timestamp} :
    ofJson v = .ok stamp ↔ ∃ spelling : stamp.Spelling, v = .string spelling.text := by
  simp only [ofJson, bind_eq_ok_iff, string_eq_ok_iff, require_eq_ok_iff, ofText?_eq_some_iff]
  constructor
  · rintro ⟨text, rfl, spelling, rfl⟩
    exact ⟨spelling, rfl⟩
  · rintro ⟨spelling, rfl⟩
    exact ⟨_, rfl, spelling, rfl⟩

namespace StampedEvent

/-- A record of a kind, two texts and a time, all of which have to be there. Other keys of an
    object do not matter. -/
structure EncodedBy (e : StampedEvent) (v : Json) : Prop where
  record : v.IsRecord 4
  kind : ∃ w, v.field? "type" 0 = some w ∧ e.event.kind.EncodedBy w
  reason : v.field? "reason" 1 = some (.string e.event.reason)
  message : v.field? "message" 2 = some (.string e.event.message)
  timestamp : ∃ spelling : e.timestamp.Spelling,
    v.field? "timestamp" 3 = some (.string spelling.text)

theorem part_kind_iff {v? : Option Json} {kind : EventKind} :
    Part EventKind.ofJson v? (some kind) ↔ ∃ w, v? = some w ∧ kind.EncodedBy w := by
  simp only [part_some_iff, EventKind.ofJson_eq_ok_iff]

theorem part_timestamp_iff {v? : Option Json} {stamp : Timestamp} :
    Part Timestamp.ofJson v? (some stamp) ↔
      ∃ spelling : stamp.Spelling, v? = some (.string spelling.text) := by
  simp only [part_some_iff, Timestamp.ofJson_eq_ok_iff]
  constructor
  · rintro ⟨v, found, spelling, rfl⟩
    exact ⟨spelling, found⟩
  · rintro ⟨spelling, found⟩
    exact ⟨_, found, spelling, rfl⟩

theorem ofJson_eq_ok_iff {v : Json} {e : StampedEvent} : ofJson v = .ok e ↔ e.EncodedBy v := by
  cases v with
  | object members =>
    simp only [ofJson, bind_eq_ok_iff, member?_eq_ok_iff, pure_eq_ok_iff, require_eq_ok_iff]
    constructor
    · rintro ⟨_, hm, _, hr, _, ht, _, hk, kind, rfl, reason, rfl, message, rfl, stamp, rfl, rfl⟩
      exact ⟨.object members, part_kind_iff.1 hk, part_string_iff.1 hr, part_string_iff.1 hm,
        part_timestamp_iff.1 ht⟩
    · rintro ⟨-, kind, reason, message, timestamp⟩
      exact ⟨_, part_string_iff.2 message, _, part_string_iff.2 reason, _,
        part_timestamp_iff.2 timestamp, _, part_kind_iff.2 kind, _, rfl, _, rfl, _, rfl, _, rfl,
        rfl⟩
  | array items =>
    simp only [ofJson, bind_eq_ok_iff, item?_eq_ok_iff, pure_eq_ok_iff, require_eq_ok_iff]
    constructor
    · rintro ⟨_, hk, kind, rfl, _, hr, reason, rfl, _, hm, message, rfl, _, ht, stamp, rfl, ⟨⟩,
        short, rfl⟩
      exact ⟨.array (atMost_eq_ok_iff.1 short), part_kind_iff.1 hk, part_string_iff.1 hr,
        part_string_iff.1 hm, part_timestamp_iff.1 ht⟩
    · rintro ⟨⟨⟩ | ⟨short⟩, kind, reason, message, timestamp⟩
      exact ⟨_, part_kind_iff.2 kind, _, rfl, _, part_string_iff.2 reason, _, rfl, _,
        part_string_iff.2 message, _, rfl, _, part_timestamp_iff.2 timestamp, _, rfl, (),
        atMost_eq_ok_iff.2 short, rfl⟩
  | _ =>
    constructor
    · rintro ⟨⟩
    · rintro ⟨⟨⟩⟩

/-! ## Writing -/

theorem field?_toJson_type (e : StampedEvent) :
    e.toJson.field? "type" 0 = some (.string e.event.kind.name) := by
  simp [toJson, Json.ofMembers, Json.field?, Tree.ofList, Tree.get?_put, EventKind.toJson]

theorem field?_toJson_timestamp (e : StampedEvent) :
    e.toJson.field? "timestamp" 3 = some (.string e.timestamp.render) := by
  simp [toJson, Json.ofMembers, Json.field?, Tree.ofList, Tree.get?_put]

/-- What is written of an event encodes it. -/
theorem encodedBy_toJson (e : StampedEvent) : e.EncodedBy e.toJson where
  record := .object _
  kind := ⟨_, e.field?_toJson_type, .word e.event.kind⟩
  reason := by
    simp [toJson, Json.ofMembers, Json.field?, Tree.ofList, Tree.get?_put]
  message := by
    simp [toJson, Json.ofMembers, Json.field?, Tree.ofList, Tree.get?_put]
  timestamp := ⟨.written e.timestamp, e.field?_toJson_timestamp⟩

theorem ofJson_toJson (e : StampedEvent) : ofJson e.toJson = .ok e :=
  ofJson_eq_ok_iff.2 e.encodedBy_toJson

/-- What becomes of a value that encodes an event. It encodes one exactly if that is read. What is
    written then is an object of the four keys and no others, with the kind as a word and the time
    in its normal spelling; it is read as the same event, and is written once more as it was. -/
theorem ofJson_normalises (v : Json) (e : StampedEvent) :
    (ofJson v = .ok e ↔ e.EncodedBy v) ∧
    (ofJson v = .ok e →
      (∃ members, e.toJson = .object members ∧
        ∀ key, key ∈ members.keys ↔ key ∈ ["type", "reason", "message", "timestamp"]) ∧
      e.toJson.field? "type" 0 = some (.string e.event.kind.name) ∧
      (∀ text, e.toJson.field? "timestamp" 3 = some (.string text) ↔
        ∃ spelling : e.timestamp.Spelling, spelling.Normal ∧ text = spelling.text) ∧
      ofJson e.toJson = .ok e ∧
      ∀ e', ofJson e.toJson = .ok e' → e'.toJson = e.toJson) := by
  refine ⟨ofJson_eq_ok_iff, fun _ => ⟨⟨_, rfl, ?_⟩, e.field?_toJson_type, ?_, e.ofJson_toJson, ?_⟩⟩
  · intro key
    exact Tree.mem_keys_ofList_iff
  · intro text
    rw [field?_toJson_timestamp, Option.some.injEq, Json.string.injEq, eq_comm,
      Timestamp.eq_render_iff]
  · intro e' again
    rw [e.ofJson_toJson] at again
    cases again
    rfl

/-- An array with the second 60 of a year's end, and an object with a key too many and more of a
    fraction than is kept. -/
theorem ofJson_normalises_spellings :
    let v := Json.array [.ofMembers [("Warning", .null)], .string "R", .string "M",
      .string "2016-12-31 18:59:60.25-05:00"]
    let e : StampedEvent := ⟨⟨.warning, "R", "M"⟩,
      ⟨⟨2016, 12, 31, by decide, by decide, by decide, by decide, by decide⟩,
        ⟨18, 59, 59, 999999999, by decide, by decide, by decide, by decide⟩, -300, by decide⟩⟩
    let v' := Json.ofMembers [("type", .string "Normal"), ("reason", .string "R"),
      ("message", .string "M"), ("timestamp", .string "2024-02-29x00:00:00.1200000009-00:00"),
      ("ignored", .null)]
    let e' : StampedEvent := ⟨⟨.normal, "R", "M"⟩,
      ⟨⟨2024, 2, 29, by decide, by decide, by decide, by decide, by decide⟩,
        ⟨0, 0, 0, 120000000, by decide, by decide, by decide, by decide⟩, 0, by decide⟩⟩
    ofJson v = .ok e ∧ e.EncodedBy v ∧ ofJson e.toJson = .ok e ∧
      e.toJson.field? "timestamp" 3 = some (.string "2016-12-31T18:59:59.999999999-05:00") ∧
      ofJson v' = .ok e' ∧ e'.EncodedBy v' ∧ ofJson e'.toJson = .ok e' ∧
      e'.toJson.field? "timestamp" 3 = some (.string "2024-02-29T00:00:00.12Z") := by
  intro v e v' e'
  have read : ofJson v = .ok e := by rfl
  have read' : ofJson v' = .ok e' := by rfl
  have written : e.timestamp.render = "2016-12-31T18:59:59.999999999-05:00" := by decide +kernel
  have written' : e'.timestamp.render = "2024-02-29T00:00:00.12Z" := by decide +kernel
  obtain ⟨encoded, normal⟩ := ofJson_normalises v e
  obtain ⟨encoded', normal'⟩ := ofJson_normalises v' e'
  rw [field?_toJson_timestamp, field?_toJson_timestamp, written, written']
  exact ⟨read, encoded.1 read, (normal read).2.2.2.1, rfl, read', encoded'.1 read',
    (normal' read').2.2.2.1, rfl⟩

end StampedEvent

end FeatureFlags
