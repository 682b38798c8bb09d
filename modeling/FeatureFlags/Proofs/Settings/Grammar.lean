import FeatureFlags.Proofs.Json.Decode
import FeatureFlags.Proofs.Text.Dotted
import FeatureFlags.Settings
import Mathlib.Algebra.Ring.Int.Defs
import Mathlib.Tactic.Tauto

/-!
# The grammar of settings

Which JSON values have the shape of settings, which settings each of them encodes, and what
becomes of a value: one without the shape cannot be parsed, and settings that can be parsed are
refused if their path or their interval cannot be used (`Settings.ofJson_classified`).
-/

namespace FeatureFlags

open Decoder

/-- A path in either notation: the list of its segments, or the text that they are the parts
    of. -/
inductive Path.EncodedBy : Path → Json → Prop
  | segments (path : Path) : EncodedBy path (.ofStrings path)
  | dotted {path : Path} {s : String} (parts : path.Between s) : EncodedBy path (.string s)

namespace Settings

/-- The values with the shape of settings: an object or an array of at most three fields, each
    of which may be missing. -/
structure Shaped (v : Json) : Prop where
  record : v.IsRecord 3
  knownFeatures : ∀ w ∈ v.field? "known_features" 0, ∃ names, w = .ofStrings names
  configPath : ∀ w ∈ v.field? "config_path" 1,
    (∃ segments, w = .ofStrings segments) ∨ ∃ s, w = .string s
  resyncInterval : ∀ w ∈ v.field? "resync_interval_secs" 2,
    ∃ i : Int, 0 ≤ i ∧ i < 2 ^ 64 ∧ w = .number (.int i)

/-- The settings that a value stands for, with a default for each field that is missing. -/
structure EncodedBy (settings : Settings) (v : Json) : Prop where
  record : v.IsRecord 3
  knownFeatures : Json.Strings (v.field? "known_features" 0) settings.knownFeatures
  configPath : Json.Defaulted (fun w path => Path.EncodedBy path w)
    ["apiServerArguments", "feature-gates"] (v.field? "config_path" 1) settings.configPath
  resyncInterval : Json.Defaulted (fun w (n : UInt64) => w = .number (.int n.toNat)) 60
    (v.field? "resync_interval_secs" 2) settings.resyncIntervalSecs

theorem decodePath_eq_ok_iff {v : Json} {path : Path} :
    decodePath v = .ok path ↔ path.EncodedBy v := by
  constructor
  · intro decoded
    unfold decodePath at decoded
    cases listed : v.stringList? with
    | some segments =>
      rw [listed] at decoded
      cases decoded
      rw [Json.stringList?_eq_some_iff.1 listed]
      exact .segments path
    | none =>
      rw [listed] at decoded
      cases v with
      | string s =>
        cases decoded
        exact .dotted (Path.between_ofDotted s)
      | _ => cases decoded
  · rintro (_ | parts)
    · simp [decodePath]
    · exact congrArg Except.ok (Path.ofDotted_eq_iff.2 parts)

/-- Settings are decoded from their three fields, whichever form the record has. -/
theorem decode_eq_ok_iff_fields {v : Json} {settings : Settings} :
    decode v = .ok settings ↔ v.IsRecord 3 ∧
      ∃ known path interval, Part (list string) (v.field? "known_features" 0) known ∧
        Part decodePath (v.field? "config_path" 1) path ∧
        Part word (v.field? "resync_interval_secs" 2) interval ∧
        ofFields known path interval = settings := by
  cases v with
  | object members =>
    simp only [decode, bind_eq_ok_iff, member?_eq_ok_iff, pure_eq_ok_iff]
    constructor
    · rintro ⟨path, hp, known, hk, interval, hi, same⟩
      exact ⟨.object members, known, path, interval, hk, hp, hi, same⟩
    · rintro ⟨-, known, path, interval, hk, hp, hi, same⟩
      exact ⟨path, hp, known, hk, interval, hi, same⟩
  | array items =>
    simp only [decode, bind_eq_ok_iff, item?_eq_ok_iff, pure_eq_ok_iff]
    constructor
    · rintro ⟨known, hk, path, hp, interval, hi, ⟨⟩, short, same⟩
      exact ⟨.array (atMost_eq_ok_iff.1 short), known, path, interval, hk, hp, hi, same⟩
    · rintro ⟨⟨⟩ | ⟨short⟩, known, path, interval, hk, hp, hi, same⟩
      exact ⟨known, hk, path, hp, interval, hi, (), atMost_eq_ok_iff.2 short, same⟩
  | _ =>
    constructor
    · rintro ⟨⟩
    · rintro ⟨⟨⟩, -⟩

theorem decode_eq_ok_iff {v : Json} {settings : Settings} :
    decode v = .ok settings ↔ settings.EncodedBy v := by
  rw [decode_eq_ok_iff_fields]
  constructor
  · rintro ⟨record, known, path, interval, hk, hp, hi, rfl⟩
    exact ⟨record, strings_iff.2 ⟨known, hk, rfl⟩,
      (defaulted_iff fun _ _ => decodePath_eq_ok_iff).2 ⟨path, hp, rfl⟩,
      (defaulted_iff fun _ _ => word_eq_ok_iff).2 ⟨interval, hi, rfl⟩⟩
  · rintro ⟨record, known, path, interval⟩
    obtain ⟨known, hk, same⟩ := strings_iff.1 known
    obtain ⟨path, hp, same'⟩ := (defaulted_iff fun _ _ => decodePath_eq_ok_iff).1 path
    obtain ⟨interval, hi, same''⟩ := (defaulted_iff fun _ _ => word_eq_ok_iff).1 interval
    refine ⟨record, known, path, interval, hk, hp, hi, ?_⟩
    cases settings
    rw [Settings.mk.injEq]
    exact ⟨same, same', same''⟩

/-- A value stands for settings exactly if it has their shape. -/
theorem shaped_iff {v : Json} : Shaped v ↔ ∃ settings : Settings, settings.EncodedBy v := by
  constructor
  · rintro ⟨record, known, path, interval⟩
    have listed : ∃ names, Json.Strings (v.field? "known_features" 0) names := by
      cases field : v.field? "known_features" 0 with
      | none => exact ⟨[], .missing⟩
      | some w =>
        obtain ⟨names, rfl⟩ := known w field
        exact ⟨names, .given names⟩
    have led : ∃ path, Json.Defaulted (fun w path => Path.EncodedBy path w)
        ["apiServerArguments", "feature-gates"] (v.field? "config_path" 1) path := by
      cases field : v.field? "config_path" 1 with
      | none => exact ⟨_, .missing⟩
      | some w =>
        rcases path w field with ⟨segments, rfl⟩ | ⟨s, rfl⟩
        · exact ⟨segments, .given (.segments segments)⟩
        · exact ⟨.ofDotted s, .given (.dotted (Path.between_ofDotted s))⟩
    have timed : ∃ n, Json.Defaulted (fun w (n : UInt64) => w = .number (.int n.toNat)) 60
        (v.field? "resync_interval_secs" 2) n := by
      cases field : v.field? "resync_interval_secs" 2 with
      | none => exact ⟨60, .missing⟩
      | some w =>
        obtain ⟨i, low, high, rfl⟩ := interval w field
        have inside : i.toNat < UInt64.size := by
          rw [UInt64.size]
          omega
        refine ⟨.ofNat i.toNat, .given ?_⟩
        rw [UInt64.toNat_ofNat_of_lt' inside, Int.toNat_of_nonneg low]
    obtain ⟨names, listed⟩ := listed
    obtain ⟨path, led⟩ := led
    obtain ⟨n, timed⟩ := timed
    exact ⟨⟨names, path, n⟩, record, listed, led, timed⟩
  · rintro ⟨settings, record, known, path, interval⟩
    refine ⟨record, fun w field => ?_, fun w field => ?_, fun w field => ?_⟩
    · rw [Option.mem_def.1 field] at known
      cases known with
      | given names => exact ⟨_, rfl⟩
    · rw [Option.mem_def.1 field] at path
      cases path with
      | given encoded =>
        cases encoded with
        | segments => exact .inl ⟨_, rfl⟩
        | dotted => exact .inr ⟨_, rfl⟩
    · rw [Option.mem_def.1 field] at interval
      cases interval with
      | given encoded =>
        have bound := settings.resyncIntervalSecs.toNat_lt
        exact ⟨_, by omega, by omega, encoded⟩

/-! ## Checking -/

theorem fault?_eq_none_iff {settings : Settings} :
    settings.fault? = none ↔
      settings.configPath ≠ [] ∧ "" ∉ settings.configPath ∧ settings.resyncIntervalSecs ≠ 0 := by
  rw [fault?]
  split
  · next empty => simp [List.isEmpty_iff.1 empty]
  · next nonempty =>
    have nonempty : settings.configPath ≠ [] := mt List.isEmpty_iff.2 nonempty
    split
    · next gap => simp [List.contains_iff_mem.1 gap]
    · next whole =>
      have whole : "" ∉ settings.configPath := mt List.contains_iff_mem.2 whole
      split
      · next zero => simp [zero]
      · next positive => simp [nonempty, whole, positive]

theorem fault?_ne_none_iff {settings : Settings} :
    settings.fault? ≠ none ↔
      settings.configPath = [] ∨ "" ∈ settings.configPath ∨ settings.resyncIntervalSecs = 0 := by
  rw [ne_eq, fault?_eq_none_iff]
  tauto

theorem checked_of_fault {settings : Settings} {fault : SettingsFault}
    (found : settings.fault? = some fault) : settings.checked = .error (.invalid fault) := by
  rw [checked, found]

theorem checked_of_fault_eq_none {settings : Settings} (sound : settings.fault? = none) :
    settings.checked = .ok settings := by
  rw [checked, sound]

/-- Checking settings refuses them or leaves them as they are. -/
theorem checked_eq_ok_iff {settings settings' : Settings} :
    settings.checked = .ok settings' ↔ settings' = settings ∧ settings.fault? = none := by
  cases found : settings.fault? with
  | none => simp [checked_of_fault_eq_none found, eq_comm]
  | some fault => simp [checked_of_fault found]

theorem checked_eq_error_iff {settings : Settings} {fault : SettingsFault} :
    settings.checked = .error (.invalid fault) ↔ settings.fault? = some fault := by
  cases found : settings.fault? with
  | none => simp [checked_of_fault_eq_none found]
  | some fault => simp [checked_of_fault found]

/-! ## Reading -/

theorem ofJson_of_encodedBy {v : Json} {settings : Settings} (encoded : settings.EncodedBy v) :
    ofJson v = settings.checked := by
  rw [ofJson, decode_eq_ok_iff.2 encoded]

theorem ofJson_of_not_shaped {v : Json} (misshapen : ¬ Shaped v) :
    ∃ error, ofJson v = .error (.json error) := by
  cases decoded : decode v with
  | ok settings => exact absurd (shaped_iff.2 ⟨settings, decode_eq_ok_iff.1 decoded⟩) misshapen
  | error error => exact ⟨error, by rw [ofJson, decoded]⟩

/-- The texts whose parts between the dots can be the segments of a path. -/
theorem usable_iff_of_between {path : Path} {s : String} (parts : path.Between s) :
    path ≠ [] ∧ "" ∉ path ↔
      s ≠ "" ∧ ¬ ['.'] <+: s.toList ∧ ¬ ['.'] <:+ s.toList ∧ ¬ ['.', '.'] <:+: s.toList := by
  rw [and_iff_right parts.nonempty, ← Path.ofDotted_eq_iff.2 parts, Path.empty_mem_ofDotted_iff]
  tauto

/-- What becomes of a value. It cannot be parsed exactly if it does not have the shape of
    settings. The settings of one that has are refused exactly if their path is empty or has an
    empty segment or their interval is zero, and are otherwise returned. A path given as a text is
    split at every dot, so that joining it gives the text back; it can be used exactly if the text
    is not empty, has no dot at either end and no two dots in a row. -/
theorem ofJson_classified (v : Json) :
    ((∃ error, ofJson v = .error (.json error)) ↔ ¬ Shaped v) ∧
    (Shaped v ↔ ∃ settings : Settings, settings.EncodedBy v) ∧
    ∀ settings : Settings, settings.EncodedBy v →
      ((∃ fault, ofJson v = .error (.invalid fault)) ↔
        settings.configPath = [] ∨ "" ∈ settings.configPath ∨
          settings.resyncIntervalSecs = 0) ∧
      (ofJson v = .ok settings ↔
        ¬ (settings.configPath = [] ∨ "" ∈ settings.configPath ∨
          settings.resyncIntervalSecs = 0)) ∧
      ∀ s, v.field? "config_path" 1 = some (.string s) →
        settings.configPath.dotted = s ∧
        (∀ segment ∈ settings.configPath, '.' ∉ segment.toList) ∧
        (settings.configPath ≠ [] ∧ "" ∉ settings.configPath ↔
          s ≠ "" ∧ ¬ ['.'] <+: s.toList ∧ ¬ ['.'] <:+ s.toList ∧
            ¬ ['.', '.'] <:+: s.toList) := by
  refine ⟨⟨?_, ofJson_of_not_shaped⟩, shaped_iff, fun settings encoded => ?_⟩
  · rintro ⟨error, refused⟩ shaped
    obtain ⟨settings, encoded⟩ := shaped_iff.1 shaped
    rw [ofJson_of_encodedBy encoded, checked] at refused
    split at refused <;> cases refused
  · rw [ofJson_of_encodedBy encoded, ← fault?_ne_none_iff]
    refine ⟨?_, ?_, fun s written => ?_⟩
    · simp only [checked_eq_error_iff, Option.ne_none_iff_exists']
    · rw [checked_eq_ok_iff, Classical.not_not, and_iff_right rfl]
    · have path := encoded.configPath
      rw [written] at path
      cases path with
      | given notation_ =>
        cases notation_ with
        | dotted parts => exact ⟨parts.joined, parts.undotted, usable_iff_of_between parts⟩

/-- An array with a path as text, an object whose path has two dots in a row, and one whose
    interval is too large by one. -/
theorem ofJson_classified_notations :
    let fields := Json.array [.ofStrings ["A"], .string "a.b"]
    let gap := Json.ofMembers [("config_path", .string "a..b"), ("ignored", .null)]
    let large := Json.ofMembers [("resync_interval_secs", .number (.int (2 ^ 64)))]
    (⟨["A"], ["a", "b"], 60⟩ : Settings).EncodedBy fields ∧
      ofJson fields = .ok ⟨["A"], ["a", "b"], 60⟩ ∧
      (⟨[], ["a", "", "b"], 60⟩ : Settings).EncodedBy gap ∧
      (∃ fault, ofJson gap = .error (.invalid fault)) ∧
      Path.dotted ["a", "", "b"] = "a..b" ∧
      ¬ Shaped large ∧ ∃ error, ofJson large = .error (.json error) := by
  intro fields gap large
  have encoded : (⟨["A"], ["a", "b"], 60⟩ : Settings).EncodedBy fields :=
    decode_eq_ok_iff.1 rfl
  have encoded' : (⟨[], ["a", "", "b"], 60⟩ : Settings).EncodedBy gap :=
    decode_eq_ok_iff.1 rfl
  have misshapen : ¬ Shaped large := by
    rintro ⟨-, -, -, interval⟩
    obtain ⟨i, -, small, same⟩ := interval _ rfl
    cases same
    omega
  obtain ⟨-, -, settings⟩ := ofJson_classified fields
  obtain ⟨-, -, settings'⟩ := ofJson_classified gap
  exact ⟨encoded, (settings _ encoded).2.1.2 (by decide), encoded',
    (settings' _ encoded').1.2 (by decide), ((settings' _ encoded').2.2 "a..b" rfl).1, misshapen,
    (ofJson_classified large).1.2 misshapen⟩

end Settings

end FeatureFlags
