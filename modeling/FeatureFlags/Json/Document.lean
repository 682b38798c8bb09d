import FeatureFlags.Json.Basic

/-!
# JSON documents

What a JSON text says before it is taken for a value: members in the order in
which they are written, keys repeated or not, and a place for the two things that
may be written and yet name no value, a number too large for a float and a string
with half of a surrogate pair. A reader of records looks at the fields it knows
and passes over the others unread (`Document.resolve`).
-/

namespace FeatureFlags

mutual

/-- The content of a JSON text. -/
inductive Document : Type
  | null
  | bool (b : Bool)
  | number (n : Option Number)
  | string (s : Option String)
  | array (items : List Document)
  | object (entries : Entries)

/-- Members as they are written. -/
inductive Entries : Type
  | nil
  | cons (key : Option String) (value : Document) (rest : Entries)

end

instance : Inhabited Document := ⟨.null⟩

namespace Entries

/-- Whether there is exactly one member. -/
def isSingle : Entries → Bool
  | cons _ _ nil => true
  | _ => false

end Entries

/-! ## Whole values -/

mutual

/-- The value a document stands for, of several members with one key the last;
    `none` where a part names no value or parts nest deeper than `levels`. -/
def Document.toJson? (levels : Nat) : Document → Option Json
  | .null => some .null
  | .bool b => some (.bool b)
  | .number n => n.map .number
  | .string s => s.map .string
  | .array items =>
    match levels with
    | 0 => none
    | levels + 1 => (itemsToJson? levels items).map .array
  | .object entries =>
    match levels with
    | 0 => none
    | levels + 1 => (entries.toTree? levels ∅).map .object

def itemsToJson? (levels : Nat) : List Document → Option (List Json)
  | [] => some []
  | item :: rest => do some ((← item.toJson? levels) :: (← itemsToJson? levels rest))

/-- The members added to a tree, in the order in which they are written. -/
def Entries.toTree? (levels : Nat) (tree : Tree) : Entries → Option Tree
  | .nil => some tree
  | .cons key value rest => do
    rest.toTree? levels (tree.put (← key) (← value.toJson? levels))

end

/-! ## Records -/

/-- What a reader expects at one place of a document. -/
inductive Shape : Type
  /-- Any value, read whole. -/
  | whole
  /-- A record with these fields, written as an object or as the array of its fields.
      Other members are passed over; a `kept` record reads them whole all the same. -/
  | record (kept : Bool) (fields : List (String × Shape))
  /-- A word, or an object with that one word for a key. -/
  | variant

mutual

/-- The value of a document of the shape given. A field of a record that is written
    twice is refused. -/
def Document.resolve (levels : Nat) (shape : Shape) : Document → Option Json
  | .array items =>
    match levels, shape with
    | 0, _ => none
    | levels + 1, .record _ fields => (resolveItems levels fields items).map .array
    | levels + 1, _ => (itemsToJson? levels items).map .array
  | .object entries =>
    match levels, shape with
    | 0, _ => none
    | levels + 1, .record kept fields => (entries.resolve levels kept fields [] ∅).map .object
    | levels + 1, .whole => (entries.toTree? levels ∅).map .object
    | levels + 1, .variant =>
      if entries.isSingle then (entries.toTree? levels ∅).map .object else none
  | other => other.toJson? levels

/-- The fields of a record written as an array, which holds no more than there are. -/
def resolveItems (levels : Nat) :
    List (String × Shape) → List Document → Option (List Json)
  | _, [] => some []
  | [], _ :: _ => none
  | (_, shape) :: fields, item :: rest => do
    some ((← item.resolve levels shape) :: (← resolveItems levels fields rest))

/-- The fields of a record written as an object; `seen` are those already met. -/
def Entries.resolve (levels : Nat) (kept : Bool) (fields : List (String × Shape))
    (seen : List String) (tree : Tree) : Entries → Option Tree
  | .nil => some tree
  | .cons key value rest => do
    let key ← key
    match fields.lookup key with
    | some shape =>
      if seen.contains key then none
      else
        let value ← value.resolve levels shape
        rest.resolve levels kept fields (key :: seen) (tree.put key value)
    | none =>
      if kept then
        let _ ← value.toJson? levels
        rest.resolve levels kept fields seen tree
      else rest.resolve levels kept fields seen tree

end

/-- How deep the parts of a record may nest. -/
def recordLevels : Nat := 127

end FeatureFlags
