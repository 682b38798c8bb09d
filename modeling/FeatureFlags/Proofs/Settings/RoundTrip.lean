import FeatureFlags.Proofs.Settings.Grammar
import Mathlib.Tactic.Push

/-!
# Settings written and read back

What is written of settings is read back as these settings, or refused for the reason for which
they cannot be used. Whatever way settings come in, they have been checked, so that they are read
back. The same value with its path as one text is read back too, unless a segment holds a dot.
-/

namespace FeatureFlags

namespace Settings

/-- The settings that are returned for a value, a text or a file. -/
inductive Accepted (settings : Settings) : Prop
  | json {v : Json} (read : ofJson v = .ok settings)
  | toml {text : String} (read : ofToml text = .ok settings)
  | file {bytes : Option ByteArray} (read : ofFile bytes = .ok settings)

theorem fault?_of_ofJson {v : Json} {settings : Settings} (read : ofJson v = .ok settings) :
    settings.fault? = none := by
  rw [ofJson] at read
  split at read
  · cases read
  · obtain ⟨rfl, sound⟩ := checked_eq_ok_iff.1 read
    exact sound

theorem fault?_of_ofToml {text : String} {settings : Settings}
    (read : ofToml text = .ok settings) : settings.fault? = none := by
  rw [ofToml] at read
  split at read
  · cases read
  · obtain ⟨rfl, sound⟩ := checked_eq_ok_iff.1 read
    exact sound

/-- A file is accepted for its text alone. -/
theorem exists_text_of_ofFile {bytes : Option ByteArray} {settings : Settings}
    (read : ofFile bytes = .ok settings) : ∃ text, ofToml text = .ok settings := by
  cases bytes with
  | none => cases read
  | some bytes =>
    rw [ofFile] at read
    split at read
    · cases read
    · exact ⟨_, read⟩

/-! ## The list of segments -/

theorem encodedBy_toJson (settings : Settings) : settings.EncodedBy settings.toJson where
  record := .object _
  knownFeatures := by
    have field : settings.toJson.field? "known_features" 0 =
        some (.ofStrings settings.knownFeatures) := by
      simp [toJson, Json.ofMembers, Json.field?, Tree.ofList, Tree.get?_put]
    rw [field]
    exact .given settings.knownFeatures
  configPath := by
    have field : settings.toJson.field? "config_path" 1 =
        some (.ofStrings settings.configPath) := by
      simp [toJson, Json.ofMembers, Json.field?, Tree.ofList, Tree.get?_put]
    rw [field]
    exact .given (.segments settings.configPath)
  resyncInterval := by
    have field : settings.toJson.field? "resync_interval_secs" 2 =
        some (.number (.int settings.resyncIntervalSecs.toNat)) := by
      simp [toJson, Json.ofMembers, Json.field?, Tree.ofList, Tree.get?_put]
    rw [field]
    exact .given rfl

theorem ofJson_toJson (settings : Settings) : ofJson settings.toJson = settings.checked :=
  ofJson_of_encodedBy settings.encodedBy_toJson

/-- The settings that some way in accepts are those that nothing is wrong with. -/
theorem accepted_iff {settings : Settings} : settings.Accepted ↔ settings.fault? = none := by
  constructor
  · rintro (read | read | read)
    · exact fault?_of_ofJson read
    · exact fault?_of_ofToml read
    · obtain ⟨text, read⟩ := exists_text_of_ofFile read
      exact fault?_of_ofToml read
  · intro sound
    have read := settings.ofJson_toJson
    rw [checked_of_fault_eq_none sound] at read
    exact .json read

/-! ## One text -/

/-- The settings as they are written, but with the path as one text. -/
def toDottedJson (settings : Settings) : Json :=
  .object (settings.toJson.members.put "config_path" (.string settings.configPath.dotted))

/-- The settings with the path that its one text is split into. -/
def resplit (settings : Settings) : Settings :=
  { settings with configPath := .ofDotted settings.configPath.dotted }

theorem encodedBy_toDottedJson (settings : Settings) :
    settings.resplit.EncodedBy settings.toDottedJson where
  record := .object _
  knownFeatures := by
    have field : settings.toDottedJson.field? "known_features" 0 =
        settings.toJson.field? "known_features" 0 := by
      simp [toDottedJson, Json.field?, Tree.get?_put, toJson, Json.ofMembers]
    rw [field]
    exact settings.encodedBy_toJson.knownFeatures
  configPath := by
    have field : settings.toDottedJson.field? "config_path" 1 =
        some (.string settings.configPath.dotted) := by
      simp [toDottedJson, Json.field?, Tree.get?_put]
    rw [field]
    exact .given (.dotted (Path.between_ofDotted _))
  resyncInterval := by
    have field : settings.toDottedJson.field? "resync_interval_secs" 2 =
        settings.toJson.field? "resync_interval_secs" 2 := by
      simp [toDottedJson, Json.field?, Tree.get?_put, toJson, Json.ofMembers]
    rw [field]
    exact settings.encodedBy_toJson.resyncInterval

theorem ofJson_toDottedJson (settings : Settings) :
    ofJson settings.toDottedJson = settings.resplit.checked :=
  ofJson_of_encodedBy settings.encodedBy_toDottedJson

theorem resplit_eq_self {settings : Settings} (nonempty : settings.configPath ≠ [])
    (undotted : ∀ segment ∈ settings.configPath, '.' ∉ segment.toList) :
    settings.resplit = settings := by
  rw [resplit, Path.ofDotted_dotted nonempty undotted]

/-- A dot in a segment makes the path longer. -/
theorem length_lt_resplit {settings : Settings} (nonempty : settings.configPath ≠ [])
    (dotted : ∃ segment ∈ settings.configPath, '.' ∈ segment.toList) :
    settings.configPath.length < settings.resplit.configPath.length := by
  have some_dots : settings.configPath.dots ≠ 0 := by
    rw [ne_eq, Path.dots_eq_zero_iff]
    push Not
    exact dotted
  have longer := Path.length_ofDotted_dotted nonempty
  rw [resplit, longer]
  omega

theorem ofJson_toDottedJson_of_dotted {settings : Settings} (sound : settings.fault? = none)
    (dotted : ∃ segment ∈ settings.configPath, '.' ∈ segment.toList) :
    ofJson settings.toDottedJson = .error (.invalid .emptySegment) ∨
      ∃ path : Path, ofJson settings.toDottedJson = .ok { settings with configPath := path } ∧
        path.dotted = settings.configPath.dotted ∧ settings.configPath.length < path.length := by
  obtain ⟨nonempty, -, timed⟩ := fault?_eq_none_iff.1 sound
  have parts := Path.between_ofDotted settings.configPath.dotted
  rw [ofJson_toDottedJson]
  by_cases gap : "" ∈ Path.ofDotted settings.configPath.dotted
  · left
    apply checked_of_fault
    simp [fault?, resplit, parts.nonempty, gap]
  · right
    have kept : settings.resplit.fault? = none :=
      fault?_eq_none_iff.2 ⟨parts.nonempty, gap, timed⟩
    exact ⟨_, checked_of_fault_eq_none kept, parts.joined, length_lt_resplit nonempty dotted⟩

/-- What is written of any settings is read back as these settings if nothing is wrong with them,
    and is refused for what is wrong otherwise; so all settings that were accepted are read back.
    With the path as one text, settings that can be used are read back exactly if no segment holds
    a dot. If one does, the parts of the text are more than the segments; one of them is empty, and
    the settings are refused, or the path is another one of more segments. -/
theorem ofJson_round_trip (settings : Settings) :
    ofJson settings.toJson =
      (match settings.fault? with
        | none => .ok settings
        | some fault => .error (.invalid fault)) ∧
    (settings.Accepted → ofJson settings.toJson = .ok settings) ∧
    (settings.fault? = none →
      (ofJson settings.toDottedJson = .ok settings ↔
        ∀ segment ∈ settings.configPath, '.' ∉ segment.toList) ∧
      ((∃ segment ∈ settings.configPath, '.' ∈ segment.toList) →
        ofJson settings.toDottedJson = .error (.invalid .emptySegment) ∨
        ∃ path : Path, ofJson settings.toDottedJson = .ok { settings with configPath := path } ∧
          path.dotted = settings.configPath.dotted ∧
          settings.configPath.length < path.length)) := by
  refine ⟨?_, fun accepted => ?_, fun sound =>
    ⟨⟨fun read segment member dot => ?_, fun undotted => ?_⟩, ?_⟩⟩
  · rw [ofJson_toJson, checked]
    cases settings.fault? <;> rfl
  · rw [ofJson_toJson, checked_of_fault_eq_none (accepted_iff.1 accepted)]
  · have longer := length_lt_resplit (fault?_eq_none_iff.1 sound).1 ⟨segment, member, dot⟩
    rw [ofJson_toDottedJson] at read
    rw [← (checked_eq_ok_iff.1 read).1] at longer
    exact Nat.lt_irrefl _ longer
  · have same := resplit_eq_self (fault?_eq_none_iff.1 sound).1 undotted
    rw [ofJson_toDottedJson, same, checked_of_fault_eq_none sound]
  · exact ofJson_toDottedJson_of_dotted sound

/-- A path with a dot in a segment: as a list it is read back, as one text it is split once
    more. -/
theorem ofJson_round_trip_dotted :
    let settings : Settings := ⟨["A"], ["kubelet", "feature.gates"], 5⟩
    settings.Accepted ∧ ofJson settings.toJson = .ok settings ∧
      settings.fault? = none ∧ ofJson settings.toDottedJson ≠ .ok settings ∧
      (∃ segment ∈ settings.configPath, '.' ∈ segment.toList) ∧
      ∃ path : Path, ofJson settings.toDottedJson = .ok { settings with configPath := path } ∧
        path.dotted = settings.configPath.dotted ∧ 2 < path.length := by
  intro settings
  have sound : settings.fault? = none := by decide
  have accepted : settings.Accepted := accepted_iff.2 sound
  have inside : ∃ segment ∈ settings.configPath, '.' ∈ segment.toList :=
    ⟨"feature.gates", by simp [settings], by decide⟩
  have split : ofJson settings.toDottedJson = .ok settings.resplit := by
    rw [ofJson_toDottedJson]
    exact checked_of_fault_eq_none (by decide +kernel)
  obtain ⟨-, back, text⟩ := ofJson_round_trip settings
  obtain ⟨kept, longer⟩ := text sound
  refine ⟨accepted, back accepted, sound, fun read => ?_, inside, ?_⟩
  · obtain ⟨segment, member, dot⟩ := inside
    exact kept.1 read segment member dot
  · rcases longer inside with refused | other
    · rw [split] at refused
      cases refused
    · exact other

end Settings

end FeatureFlags
