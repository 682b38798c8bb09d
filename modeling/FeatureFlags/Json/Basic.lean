import FeatureFlags.Decimal.Binary64

/-!
# JSON values

A JSON value whose objects are finite maps: the members of an object stand in
strictly ascending order of their keys, by construction. Two objects with the
same members are therefore equal, and every walk over an object meets its keys in
the one order in which they are written.
-/

namespace FeatureFlags

/-- A JSON number is an integer or a binary floating-point number, and no number
    is both. -/
inductive Number
  | int (i : Int)
  | float (x : Binary64)
  deriving DecidableEq, Inhabited

/-- `key` may follow a member whose key is `lo`; `none` is the start of an object. -/
def Above (lo : Option String) (key : String) : Prop := ∀ l ∈ lo, l < key

theorem above_none (key : String) : Above none key := nofun

theorem above_some {l key : String} (h : l < key) : Above (some l) key := by
  intro l' hl
  cases hl
  exact h

mutual

/-- A JSON value. -/
inductive Json : Type
  | null
  | bool (b : Bool)
  | number (n : Number)
  | string (s : String)
  | array (items : List Json)
  | object (members : Members none)

/-- The members of an object, or those of them that follow the key `lo`. -/
inductive Members : Option String → Type
  | nil {lo : Option String} : Members lo
  | cons {lo : Option String} (key : String) (value : Json) (above : Above lo key)
      (rest : Members (some key)) : Members lo

end

/-- A configuration tree: the members of one object. -/
abbrev Tree := Members none

instance : Inhabited Json := ⟨.null⟩

namespace Members

instance {lo : Option String} : EmptyCollection (Members lo) := ⟨nil⟩

instance {lo : Option String} : Inhabited (Members lo) := ⟨nil⟩

/-- The value of a key. -/
def get? {lo : Option String} : Members lo → String → Option Json
  | nil, _ => none
  | cons key value _ rest, k => if k = key then some value else rest.get? k

/-- The members with one key given a value, in its place in the order. -/
def insert {lo : Option String} : Members lo → (k : String) → Above lo k → Json → Members lo
  | nil, k, h, v => cons k v h nil
  | cons key value above rest, k, h, v =>
    if before : k < key then cons k v h (cons key value (above_some before) rest)
    else if after : key < k then cons key value above (rest.insert k (above_some after) v)
    else
      have same : key = k := String.le_antisymm (String.not_lt.1 before) (String.not_lt.1 after)
      cons k v h (same ▸ rest)

/-- The members in ascending order of their keys. -/
def toList {lo : Option String} : Members lo → List (String × Json)
  | nil => []
  | cons key value _ rest => (key, value) :: rest.toList

/-- The keys in ascending order. -/
def keys {lo : Option String} (m : Members lo) : List String := m.toList.map Prod.fst

def isEmpty {lo : Option String} : Members lo → Bool
  | nil => true
  | cons .. => false

end Members

namespace Tree

/-- The tree with one member set. -/
def put (t : Tree) (key : String) (value : Json) : Tree := t.insert key (above_none key) value

/-- The tree of a list of members; of several with one key the last is kept. -/
def ofList (members : List (String × Json)) : Tree :=
  members.foldl (fun t m => t.put m.1 m.2) ∅

end Tree

namespace Json

/-- The six kinds of value. -/
inductive Kind
  | null | bool | number | string | array | map
  deriving DecidableEq, Inhabited

def Kind.name : Kind → String
  | .null => "null"
  | .bool => "bool"
  | .number => "number"
  | .string => "string"
  | .array => "array"
  | .map => "map"

def kind : Json → Kind
  | null => .null
  | bool _ => .bool
  | number _ => .number
  | string _ => .string
  | array _ => .array
  | object _ => .map

/-- The strings of an array that holds nothing else. -/
def stringList? : Json → Option (List String)
  | array items => items.mapM fun
    | string s => some s
    | _ => none
  | _ => none

/-- An array of strings. -/
def ofStrings (list : List String) : Json := array (list.map string)

/-- An object from a list of members. -/
def ofMembers (members : List (String × Json)) : Json := object (Tree.ofList members)

end Json

/-! ## Equality

Two notions: equality of values as data, which is decidable, and sameness, which
in addition takes the two floating-point zeros for one number. -/

/-- Whether two numbers are the same: an integer never is a float. -/
def Number.same : Number → Number → Bool
  | .int i, .int j => i == j
  | .float x, .float y => x.same y
  | _, _ => false

mutual

/-- Whether two values are the same, numbers taken by value. -/
def Json.same : Json → Json → Bool
  | .null, .null => true
  | .bool a, .bool b => a == b
  | .number m, .number n => m.same n
  | .string s, .string t => s == t
  | .array xs, .array ys => sameItems xs ys
  | .object m, .object n => m.same n
  | _, _ => false

/-- Sameness of arrays, item by item. -/
def sameItems : List Json → List Json → Bool
  | [], [] => true
  | x :: xs, y :: ys => x.same y && sameItems xs ys
  | _, _ => false

/-- Sameness of objects: the same keys, with the same values. -/
def Members.same {lo lo' : Option String} : Members lo → Members lo' → Bool
  | .nil, .nil => true
  | .cons k v _ rest, .cons k' v' _ rest' => k == k' && v.same v' && rest.same rest'
  | _, _ => false

end

mutual

/-- Equality of values is decidable. -/
def Json.decEq : (v w : Json) → Decidable (v = w)
  | .null, .null => isTrue rfl
  | .bool a, .bool b => decidable_of_iff (a = b) (by simp)
  | .number m, .number n => decidable_of_iff (m = n) (by simp)
  | .string s, .string t => decidable_of_iff (s = t) (by simp)
  | .array xs, .array ys =>
    have := decEqItems xs ys
    decidable_of_iff (xs = ys) (by simp)
  | .object m, .object n =>
    have := m.decEq n
    decidable_of_iff (m = n) (by simp)
  | .null, .bool _ | .null, .number _ | .null, .string _ | .null, .array _ | .null, .object _
  | .bool _, .null | .bool _, .number _ | .bool _, .string _ | .bool _, .array _
  | .bool _, .object _ | .number _, .null | .number _, .bool _ | .number _, .string _
  | .number _, .array _ | .number _, .object _ | .string _, .null | .string _, .bool _
  | .string _, .number _ | .string _, .array _ | .string _, .object _ | .array _, .null
  | .array _, .bool _ | .array _, .number _ | .array _, .string _ | .array _, .object _
  | .object _, .null | .object _, .bool _ | .object _, .number _ | .object _, .string _
  | .object _, .array _ => isFalse nofun

def decEqItems : (xs ys : List Json) → Decidable (xs = ys)
  | [], [] => isTrue rfl
  | [], _ :: _ | _ :: _, [] => isFalse nofun
  | x :: xs, y :: ys =>
    have := x.decEq y
    have := decEqItems xs ys
    decidable_of_iff (x = y ∧ xs = ys) (by simp)

def Members.decEq {lo : Option String} : (m n : Members lo) → Decidable (m = n)
  | .nil, .nil => isTrue rfl
  | .nil, .cons .. | .cons .., .nil => isFalse nofun
  | .cons k v h rest, .cons k' v' h' rest' =>
    if hk : k = k' then by
      subst hk
      exact
        have := v.decEq v'
        have := rest.decEq rest'
        decidable_of_iff (v = v' ∧ rest = rest') (by simp)
    else isFalse (by simp [hk])

end

instance : DecidableEq Json := Json.decEq

instance {lo : Option String} : DecidableEq (Members lo) := Members.decEq

end FeatureFlags
