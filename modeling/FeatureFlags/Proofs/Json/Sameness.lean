import FeatureFlags.Json.Basic

/-!
# Sameness of values

Two values are the same if they are equal once every negative zero in them is made
positive (`Json.same_iff`, `Members.same_iff`). So sameness is an equivalence, and nothing
but the sign of a zero is lost on it.
-/

namespace FeatureFlags

/-- The number, a negative zero made positive. -/
def Binary64.unsignZero (x : Binary64) : Binary64 := if x.isZero then x.withSign false else x

def Number.unsignZero : Number → Number
  | int i => int i
  | float x => float x.unsignZero

mutual

/-- The value with every negative zero made positive. -/
def Json.unsignZeros : Json → Json
  | .null => .null
  | .bool b => .bool b
  | .number n => .number n.unsignZero
  | .string s => .string s
  | .array items => .array (unsignItems items)
  | .object m => .object m.unsignZeros

def unsignItems : List Json → List Json
  | [] => []
  | item :: rest => item.unsignZeros :: unsignItems rest

def Members.unsignZeros {lo : Option String} : Members lo → Members lo
  | .nil => .nil
  | .cons key value above rest => .cons key value.unsignZeros above rest.unsignZeros

end

theorem Binary64.same_iff {x y : Binary64} :
    x.same y = true ↔ x.unsignZero = y.unsignZero := by
  obtain ⟨negative, magnitude, finite⟩ := x
  obtain ⟨negative', magnitude', finite'⟩ := y
  by_cases hx : magnitude = 0
  · by_cases hy : magnitude' = 0
    · simp [same, unsignZero, isZero, withSign, hx, hy]
    · have differ : magnitude ≠ magnitude' := by omega
      simp [same, unsignZero, isZero, withSign, hx, hy, Ne.symm hy]
  · by_cases hy : magnitude' = 0
    · simp [same, unsignZero, isZero, withSign, hx, hy]
    · simp [same, unsignZero, isZero, hx, hy]

theorem Number.same_iff {m n : Number} : m.same n = true ↔ m.unsignZero = n.unsignZero := by
  cases m with
  | int i =>
    cases n with
    | int j => simp [same, unsignZero]
    | float y => simp [same, unsignZero]
  | float x =>
    cases n with
    | int j => simp [same, unsignZero]
    | float y => simp [same, unsignZero, Binary64.same_iff]

mutual

/-- Sameness is equality up to the signs of zeros. -/
theorem Json.same_iff : ∀ {v w : Json}, v.same w = true ↔ v.unsignZeros = w.unsignZeros
  | .null, w => by cases w <;> simp [Json.same, Json.unsignZeros]
  | .bool b, w => by cases w <;> simp [Json.same, Json.unsignZeros]
  | .number n, w => by cases w <;> simp [Json.same, Json.unsignZeros, Number.same_iff]
  | .string s, w => by cases w <;> simp [Json.same, Json.unsignZeros]
  | .array items, w => by cases w <;> simp [Json.same, Json.unsignZeros, sameItems_iff]
  | .object m, w => by cases w <;> simp [Json.same, Json.unsignZeros, Members.same_iff]

theorem sameItems_iff : ∀ {items items' : List Json},
    sameItems items items' = true ↔ unsignItems items = unsignItems items'
  | [], items' => by cases items' <;> simp [sameItems, unsignItems]
  | item :: rest, items' => by
    cases items' <;> simp [sameItems, unsignItems, item.same_iff, @sameItems_iff rest]

theorem Members.same_iff : ∀ {lo : Option String} {m n : Members lo},
    m.same n = true ↔ m.unsignZeros = n.unsignZeros
  | _, .nil, n => by cases n <;> simp [Members.same, Members.unsignZeros]
  | _, .cons key value above rest, n => by
    cases n with
    | nil => simp [Members.same, Members.unsignZeros]
    | cons key' value' above' rest' =>
      by_cases hkey : key = key'
      · subst hkey
        simp [Members.same, Members.unsignZeros, value.same_iff, rest.same_iff]
      · simp [Members.same, Members.unsignZeros, hkey]

end

end FeatureFlags
