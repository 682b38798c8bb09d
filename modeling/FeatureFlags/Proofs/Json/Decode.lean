import FeatureFlags.Json.Decode
import FeatureFlags.Proofs.Tree.Lists

/-!
# What decoders accept

Each piece that decoders of records are made of, by what it accepts and what it makes of it.
A record has two forms, an object and an array, and its fields are the same for both
(`Json.field?`): a decoder that looks at a field by its key or by its place looks at the same
thing.
-/

namespace FeatureFlags

/-! ## Records -/

namespace Json

/-- An object, or an array of no more items than the record has fields. -/
inductive IsRecord (fields : Nat) : Json → Prop
  | object (members : Tree) : IsRecord fields (.object members)
  | array {items : List Json} (short : items.length ≤ fields) : IsRecord fields (.array items)

/-- A field of a record, known by its key or by its place. -/
def field? (v : Json) (key : String) (place : Nat) : Option Json :=
  match v with
  | object members => members.get? key
  | array items => items[place]?
  | _ => none

/-- A list of strings. A missing one is empty. -/
inductive Strings : Option Json → List String → Prop
  | missing : Strings none []
  | given (list : List String) : Strings (some (.ofStrings list)) list

/-- A field that may be missing or null, and is otherwise encoded as said. -/
inductive Optional {α : Type} (Encodes : Json → α → Prop) : Option Json → Option α → Prop
  | missing : Optional Encodes none none
  | null : Optional Encodes (some .null) none
  | given {v : Json} {a : α} (encodes : Encodes v a) : Optional Encodes (some v) (some a)

/-- A field that may be missing, for which a default stands then. -/
inductive Defaulted {α : Type} (Encodes : Json → α → Prop) (default : α) :
    Option Json → α → Prop
  | missing : Defaulted Encodes default none default
  | given {v : Json} {a : α} (encodes : Encodes v a) : Defaulted Encodes default (some v) a

/-- A string that may be missing or null. -/
abbrev OptionalText : Option Json → Option String → Prop := Optional fun v text => v = .string text

end Json

/-! ## Decoders -/

namespace Decoder

variable {α β : Type}

theorem bind_eq_ok_iff {x : Except DecodeError α} {f : α → Except DecodeError β} {b : β} :
    (x >>= f) = .ok b ↔ ∃ a, x = .ok a ∧ f a = .ok b := by
  cases x <;> simp [bind, Except.bind]

theorem map_eq_ok_iff {x : Except DecodeError α} {f : α → β} {b : β} :
    (f <$> x) = .ok b ↔ ∃ a, x = .ok a ∧ f a = b := by
  cases x <;> simp [Functor.map, Except.map]

theorem pure_eq_ok_iff {a b : α} : (pure a : Except DecodeError α) = .ok b ↔ a = b := by
  simp [pure, Except.pure]

theorem string_eq_ok_iff {v : Json} {s : String} : string v = .ok s ↔ v = .string s := by
  cases v <;> simp [string]

theorem mapM_string_eq_ok_iff {items : List Json} {texts : List String} :
    items.mapM string = .ok texts ↔ items = texts.map .string := by
  induction items generalizing texts with
  | nil => cases texts <;> simp [pure_eq_ok_iff]
  | cons item rest ih =>
    simp only [List.mapM_cons, bind_eq_ok_iff, pure_eq_ok_iff, string_eq_ok_iff, ih]
    constructor
    · rintro ⟨s, rfl, tail, rfl, rfl⟩
      rfl
    · intro same
      obtain ⟨s, tail, rfl, rfl, rfl⟩ := List.map_eq_cons_iff.1 same.symm
      exact ⟨s, rfl, tail, rfl, rfl⟩

theorem list_string_eq_ok_iff {v : Json} {texts : List String} :
    list string v = .ok texts ↔ v = .ofStrings texts := by
  cases v with
  | array items =>
    rw [list, mapM_string_eq_ok_iff, Json.ofStrings, Json.array.injEq]
  | _ => simp [list, Json.ofStrings]

/-- The words are the integers from 0 up to what 64 bits hold. -/
theorem word_eq_ok_iff {v : Json} {n : UInt64} :
    word v = .ok n ↔ v = .number (.int n.toNat) := by
  cases v with
  | number number =>
    cases number with
    | int i =>
      rw [word]
      split
      · next inside =>
        simp only [Except.ok.injEq, Json.number.injEq, Number.int.injEq]
        have bound : i.toNat < UInt64.size := by omega
        constructor
        · rintro rfl
          rw [UInt64.toNat_ofNat_of_lt' bound]
          omega
        · rintro rfl
          simp
      · next outside =>
        have bound := n.toNat_lt_size
        simp only [reduceCtorEq, Json.number.injEq, Number.int.injEq, false_iff]
        omega
    | float x => simp [word]
  | _ => simp [word]

theorem require_eq_ok_iff {error : DecodeError} {found : Option α} {a : α} :
    require error found = .ok a ↔ found = some a := by
  cases found <;> simp [require]

theorem atMost_eq_ok_iff {fields : Nat} {items : List Json} :
    atMost fields items = .ok () ↔ items.length ≤ fields := by
  rw [atMost]
  split <;> simp [*]

/-- A part of a record: missing, or accepted by a decoder. -/
inductive Part (decode : Decoder α) : Option Json → Option α → Prop
  | missing : Part decode none none
  | given {v : Json} {a : α} (decoded : decode v = .ok a) : Part decode (some v) (some a)

theorem part_iff {decode : Decoder α} {v? : Option Json} {found : Option α} :
    (match v? with
      | none => .ok none
      | some v => some <$> decode v) = Except.ok found ↔ Part decode v? found := by
  constructor
  · intro accepted
    cases v? with
    | none =>
      cases accepted
      exact .missing
    | some v =>
      obtain ⟨a, decoded, rfl⟩ := map_eq_ok_iff.1 accepted
      exact .given decoded
  · intro part
    cases part with
    | missing => rfl
    | given decoded => exact map_eq_ok_iff.2 ⟨_, decoded, rfl⟩

/-- A part that has to be there. -/
theorem part_some_iff {decode : Decoder α} {v? : Option Json} {a : α} :
    Part decode v? (some a) ↔ ∃ v, v? = some v ∧ decode v = .ok a := by
  constructor
  · intro part
    cases part with
    | given decoded => exact ⟨_, rfl, decoded⟩
  · rintro ⟨v, rfl, decoded⟩
    exact .given decoded

theorem part_string_iff {v? : Option Json} {s : String} :
    Part string v? (some s) ↔ v? = some (.string s) := by
  simp [part_some_iff, string_eq_ok_iff]

theorem member?_eq_ok_iff {members : Tree} {key : String} {decode : Decoder α}
    {found : Option α} :
    member? members key decode = .ok found ↔ Part decode (members.get? key) found :=
  part_iff

theorem item?_eq_ok_iff {items : List Json} {place : Nat} {decode : Decoder α}
    {found : Option α} :
    item? items place decode = .ok found ↔ Part decode items[place]? found :=
  part_iff

/-- A list that a decoder finds, or none, is one of the strings of a field. -/
theorem strings_iff {v? : Option Json} {texts : List String} :
    Json.Strings v? texts ↔ ∃ found, Part (list string) v? found ∧ found.getD [] = texts := by
  constructor
  · intro strings
    cases strings with
    | missing => exact ⟨none, .missing, rfl⟩
    | given => exact ⟨some texts, .given (list_string_eq_ok_iff.2 rfl), rfl⟩
  · rintro ⟨found, part, rfl⟩
    cases part with
    | missing => exact .missing
    | given decoded =>
      rw [list_string_eq_ok_iff.1 decoded]
      exact .given _

theorem defaulted_iff {decode : Decoder α} {Encodes : Json → α → Prop}
    (exact : ∀ v a, decode v = .ok a ↔ Encodes v a) {v? : Option Json} {default a : α} :
    Json.Defaulted Encodes default v? a ↔
      ∃ found, Part decode v? found ∧ found.getD default = a := by
  constructor
  · intro field
    cases field with
    | missing => exact ⟨none, .missing, rfl⟩
    | given encodes => exact ⟨some a, .given ((exact _ a).2 encodes), rfl⟩
  · rintro ⟨found, part, rfl⟩
    cases part with
    | missing => exact .missing
    | given decoded => exact .given ((exact _ _).1 decoded)

theorem nullable_eq_ok_iff {decode : Decoder α} {v : Json} {found : Option α} :
    nullable decode v = .ok found ↔
      (v = .null ∧ found = none) ∨ (v ≠ .null ∧ ∃ a, decode v = .ok a ∧ some a = found) := by
  cases v with
  | null => simp [nullable, eq_comm]
  | _ => simp [nullable, map_eq_ok_iff]

/-- A decoder that does not accept null itself, where null is accepted as well. -/
theorem optional_iff {decode : Decoder α} {Encodes : Json → α → Prop}
    (exact : ∀ v a, decode v = .ok a ↔ Encodes v a) (strict : ∀ a, ¬ Encodes .null a)
    {v? : Option Json} {a? : Option α} :
    Json.Optional Encodes v? a? ↔ ∃ found, Part (nullable decode) v? found ∧ found.join = a? := by
  constructor
  · intro optional
    cases optional with
    | missing => exact ⟨none, .missing, rfl⟩
    | null => exact ⟨some none, .given (nullable_eq_ok_iff.2 (.inl ⟨rfl, rfl⟩)), rfl⟩
    | @given v a encodes =>
      have other : v ≠ .null := by
        rintro rfl
        exact strict a encodes
      have decoded : nullable decode v = .ok (some a) :=
        nullable_eq_ok_iff.2 (.inr ⟨other, a, (exact v a).2 encodes, rfl⟩)
      exact ⟨some (some a), .given decoded, rfl⟩
  · rintro ⟨found, part, rfl⟩
    cases part with
    | missing => exact .missing
    | given decoded =>
      rcases nullable_eq_ok_iff.1 decoded with ⟨rfl, rfl⟩ | ⟨-, a, accepted, rfl⟩
      · exact .null
      · exact .given ((exact _ a).1 accepted)

theorem optionalText_iff {v? : Option Json} {text? : Option String} :
    Json.OptionalText v? text? ↔
      ∃ found, Part (nullable string) v? found ∧ found.join = text? :=
  optional_iff (fun _ _ => string_eq_ok_iff) (by simp)

end Decoder

end FeatureFlags
