import FeatureFlags.Json.Decode
import FeatureFlags.Json.Document
import FeatureFlags.Observer
import FeatureFlags.Toml.Reader

/-!
# Settings

The settings of a flags observer and of the loop that drives it. They are read from
JSON values, from TOML texts and from TOML files. The path is written as a list of
segments or as one text with dots between them; only the list can name a key that
holds a dot. Settings from any source are checked before they are used.
-/

namespace FeatureFlags

structure Settings where
  /-- The features that the server understands; an empty list stands for all. -/
  knownFeatures : List String := []
  /-- Where the flags are put. -/
  configPath : Path := ["apiServerArguments", "feature-gates"]
  resyncIntervalSecs : UInt64 := 60
  deriving DecidableEq

/-- Why settings cannot be used. -/
inductive SettingsFault
  | emptyPath
  | emptySegment
  | zeroInterval
  deriving DecidableEq, Inhabited

def SettingsFault.message : SettingsFault → String
  | emptyPath => "config_path must not be empty"
  | emptySegment => "config_path must not contain empty segments"
  | zeroInterval => "resync_interval_secs must be > 0"

/-- Why a file has no text. -/
inductive FileFault
  | notFound
  | notUtf8
  deriving DecidableEq, Inhabited

def FileFault.kind : FileFault → String
  | notFound => "NotFound"
  | notUtf8 => "InvalidData"

inductive SettingsError
  | file (fault : FileFault)
  | json (error : DecodeError)
  /-- The text is not TOML, or not that of settings. -/
  | toml
  | invalid (fault : SettingsFault)
  deriving DecidableEq

def SettingsError.message : SettingsError → String
  | file fault => "IO error: " ++ fault.kind
  | json error => "Parse error: JSON parse error: " ++ error.message
  | toml => "Parse error: TOML parse error: ..."
  | invalid fault => "Validation error: " ++ fault.message

namespace Settings

/-! ## Checking -/

/-- The first thing that is wrong with settings. -/
def fault? (settings : Settings) : Option SettingsFault :=
  if settings.configPath.isEmpty then some .emptyPath
  else if settings.configPath.contains "" then some .emptySegment
  else if settings.resyncIntervalSecs = 0 then some .zeroInterval
  else none

/-- The settings if they can be used. -/
def checked (settings : Settings) : Except SettingsError Settings :=
  match settings.fault? with
  | some fault => .error (.invalid fault)
  | none => .ok settings

/-! ## JSON -/

def toJson (settings : Settings) : Json :=
  .ofMembers [("known_features", .ofStrings settings.knownFeatures),
    ("config_path", .ofStrings settings.configPath),
    ("resync_interval_secs", .number (.int settings.resyncIntervalSecs.toNat))]

/-- A path in either notation. -/
def decodePath : Decoder Path := fun value =>
  match value.stringList?, value with
  | some segments, _ => .ok segments
  | none, .string dotted => .ok (.ofDotted dotted)
  | none, _ => .error (.noForm "ConfigPath")

/-- Settings whose fields are given or not. -/
def ofFields (knownFeatures : Option (List String)) (configPath : Option Path)
    (interval : Option UInt64) : Settings :=
  let defaults : Settings := {}
  ⟨knownFeatures.getD defaults.knownFeatures, configPath.getD defaults.configPath,
    interval.getD defaults.resyncIntervalSecs⟩

/-- Settings as they are written, not yet checked. -/
def decode : Decoder Settings
  | .object members => do
    let path ← Decoder.member? members "config_path" decodePath
    let known ← Decoder.member? members "known_features" (Decoder.list Decoder.string)
    let interval ← Decoder.member? members "resync_interval_secs" Decoder.word
    return ofFields known path interval
  | .array items => do
    let known ← Decoder.item? items 0 (Decoder.list Decoder.string)
    let path ← Decoder.item? items 1 decodePath
    let interval ← Decoder.item? items 2 Decoder.word
    Decoder.atMost 3 items
    return ofFields known path interval
  | other => .error (.wrongKind other "struct ObserverSettings")

def shape : Shape :=
  .record false [("known_features", .whole), ("config_path", .whole),
    ("resync_interval_secs", .whole)]

def ofJson (value : Json) : Except SettingsError Settings :=
  match decode value with
  | .error error => .error (.json error)
  | .ok settings => settings.checked

/-! ## TOML -/

/-- The strings of a TOML array that holds nothing else. -/
def tomlStrings? : Toml.Value → Option (List String)
  | .array _ items => items.mapM fun
    | .string s => some s
    | _ => none
  | _ => none

def tomlPath? : Toml.Value → Option Path
  | .string dotted => some (.ofDotted dotted)
  | value => tomlStrings? value

def tomlInterval? : Toml.Value → Option UInt64
  | .integer i => if 0 ≤ i ∧ i < UInt64.size then some (.ofNat i.toNat) else none
  | _ => none

/-- The settings of TOML entries, not yet checked. Other entries are ignored. -/
def ofEntries? (entries : Toml.Entries) : Option Settings := do
  let known ← (entries.lookup "known_features").mapM tomlStrings?
  let path ← (entries.lookup "config_path").mapM tomlPath?
  let interval ← (entries.lookup "resync_interval_secs").mapM tomlInterval?
  return ofFields known path interval

def ofToml (text : String) : Except SettingsError Settings :=
  match Toml.entries? text >>= ofEntries? with
  | none => .error .toml
  | some settings => settings.checked

/-- The settings of a file's bytes, `none` where there is no file. -/
def ofFile (bytes : Option ByteArray) : Except SettingsError Settings :=
  match bytes with
  | none => .error (.file .notFound)
  | some bytes =>
    match String.fromUTF8? bytes with
    | none => .error (.file .notUtf8)
    | some text => ofToml text

/-! ## Use -/

/-- The observer that the settings describe. -/
def observer (settings : Settings) : FlagsObserver :=
  { knownFeatures := settings.knownFeatures, path := settings.configPath }

end Settings

end FeatureFlags
