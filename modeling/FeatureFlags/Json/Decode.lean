import FeatureFlags.Json.Reader
import FeatureFlags.Json.Writer

/-!
# Decoding JSON values

The pieces that decoders of records are made of, and what they report. A record is
an object, whose members are looked at in the order of their keys and whose unknown
members are ignored, or the array of its fields in the order of their declaration,
where fields with a default may be missing at the end.
-/

namespace FeatureFlags

/-- Why a value is not the encoding of what was asked for. -/
inductive DecodeError
  /-- The value is of another kind. -/
  | wrongKind (found : Json) (expected : String)
  /-- The integer is out of range. -/
  | outOfRange (found : Int) (expected : String)
  /-- An object that stands for a word does not have exactly one member. -/
  | notSingle
  /-- A field without a default is missing from an object. -/
  | missingField (name : String)
  /-- A field without a default is missing from an array. -/
  | tooShort (length : Nat) (record : String) (fields : Nat)
  /-- The array has more items than the record has fields. -/
  | tooLong (length : Nat)
  /-- The same inside a part that was read whole before, of which `taken` items fit. -/
  | tooLongInside (length taken : Nat)
  /-- The word is none of those known. -/
  | unknownWord (word : String) (known : List String)
  /-- The value has none of the forms of a type. -/
  | noForm (type : String)
  /-- The text is no timestamp. -/
  | notTimestamp
  deriving DecidableEq

namespace DecodeError

/-- How a value is named in an error. -/
def naming : Json → String
  | .null => "null"
  | .bool b => "boolean `" ++ toString b ++ "`"
  | .number (.int i) => "integer `" ++ toString i ++ "`"
  | .number (.float x) => "floating point `" ++ (Number.float x).render ++ "`"
  | .string s => "string " ++ quoted s
  | .array _ => "sequence"
  | .object _ => "map"

def inTicks (word : String) : String := "`" ++ word ++ "`"

def message : DecodeError → String
  | wrongKind found expected => "invalid type: " ++ naming found ++ ", expected " ++ expected
  | outOfRange found expected =>
    "invalid value: integer `" ++ toString found ++ "`, expected " ++ expected
  | notSingle => "invalid value: map, expected map with a single key"
  | missingField name => "missing field " ++ inTicks name
  | tooShort length record fields =>
    "invalid length " ++ toString length ++ ", expected struct " ++ record ++ " with "
      ++ toString fields ++ " elements"
  | tooLong length => "invalid length " ++ toString length ++ ", expected fewer elements in array"
  | tooLongInside length taken =>
    "invalid length " ++ toString length ++ ", expected " ++ toString taken
      ++ " elements in sequence"
  | unknownWord word known =>
    "unknown variant " ++ inTicks word ++ ", expected " ++ " or ".intercalate (known.map inTicks)
  | noForm type => "data did not match any variant of untagged enum " ++ type
  | notTimestamp => "not a timestamp"

end DecodeError

/-- A decoder of JSON values. -/
abbrev Decoder (α : Type) := Json → Except DecodeError α

namespace Decoder

variable {α : Type}

def string : Decoder String
  | .string s => .ok s
  | other => .error (.wrongKind other "a string")

/-- A value that may be `null`. -/
def nullable (decode : Decoder α) : Decoder (Option α)
  | .null => .ok none
  | other => some <$> decode other

def list (decode : Decoder α) : Decoder (List α)
  | .array items => items.mapM decode
  | other => .error (.wrongKind other "a sequence")

/-- An integer of 64 bits without a sign. -/
def word : Decoder UInt64
  | .number (.int i) =>
    if 0 ≤ i ∧ i < UInt64.size then .ok (.ofNat i.toNat) else .error (.outOfRange i "u64")
  | other => .error (.wrongKind other "u64")

/-- A member of an object, if it is there. -/
def member? (members : Tree) (key : String) (decode : Decoder α) :
    Except DecodeError (Option α) :=
  match members.get? key with
  | none => .ok none
  | some value => some <$> decode value

/-- An item of an array, if it is there. -/
def item? (items : List Json) (index : Nat) (decode : Decoder α) :
    Except DecodeError (Option α) :=
  match items[index]? with
  | none => .ok none
  | some value => some <$> decode value

/-- A field that has to be there. -/
def require (error : DecodeError) : Option α → Except DecodeError α
  | none => .error error
  | some value => .ok value

/-- An array has no more items than the record has fields. -/
def atMost (fields : Nat) (items : List Json) : Except DecodeError Unit :=
  if items.length ≤ fields then .ok () else .error (.tooLong items.length)

/-- The value that a text of the given shape encodes. -/
def ofText? (decode : Decoder α) (shape : Shape) (text : String) : Option α := do
  let value ← (← Json.document? text).resolve recordLevels shape
  (decode value).toOption

end Decoder

end FeatureFlags
