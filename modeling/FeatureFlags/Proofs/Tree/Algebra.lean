import FeatureFlags.Proofs.Json.Sameness
import FeatureFlags.Proofs.Tree.Merge

/-!
# The algebra of merging

An empty tree laid over or under another changes nothing, and neither does a tree laid over
itself or laid over or under a second time. In which way three trees are put together makes no
difference if they have maps at the same places (`Tree.Fits`), and in which order two are laid
over each other makes none if they also have the same values elsewhere (`Tree.Agrees`). All of
this is said of values first, by induction on what stands under the keys of their maps, and
holds of trees because a tree is what an object holds (`Tree.merge_algebra`).
-/

namespace FeatureFlags

mutual

/-- Induction on values by their maps: every value that is no map has the property, and a map has
    it if all of its members have. -/
@[elab_as_elim]
theorem Json.induct {motive : Json → Prop} (plain : ∀ v : Json, v.kind ≠ .map → motive v)
    (map : ∀ m : Tree, (∀ key v, m.get? key = some v → motive v) → motive (.object m)) :
    (v : Json) → motive v
  | .object m => map m (Members.induct_values plain map m)
  | .null => plain .null (by simp [Json.kind])
  | .bool b => plain (.bool b) (by simp [Json.kind])
  | .number n => plain (.number n) (by simp [Json.kind])
  | .string s => plain (.string s) (by simp [Json.kind])
  | .array items => plain (.array items) (by simp [Json.kind])

theorem Members.induct_values {motive : Json → Prop}
    (plain : ∀ v : Json, v.kind ≠ .map → motive v)
    (map : ∀ m : Tree, (∀ key v, m.get? key = some v → motive v) → motive (.object m)) :
    {lo : Option String} → (m : Members lo) → ∀ key v, m.get? key = some v → motive v
  | _, .nil => by
    intro key v found
    rw [Members.get?_nil] at found
    cases found
  | _, .cons first value above rest => by
    intro key v found
    rw [Members.get?_cons] at found
    split at found
    · obtain rfl := Option.some.inj found
      exact Json.induct plain map value
    · exact Members.induct_values plain map rest key v found

end

/-! ## Places of maps -/

/-- The value at a path below a value, which itself stands at the empty path. -/
def Json.at? : Json → Path → Option Json
  | v, [] => some v
  | v, key :: rest => (v.members.get? key).bind fun w => w.at? rest

/-- Whatever two values hold at one path is in a relation. -/
def Json.Throughout (R : Json → Json → Prop) (v w : Json) : Prop :=
  ∀ p x y, v.at? p = some x → w.at? p = some y → R x y

/-- Whatever two trees hold at one path is in a relation. -/
def Tree.Throughout (R : Json → Json → Prop) (t u : Tree) : Prop :=
  ∀ p x y, t.read p = .ok (some x) → u.read p = .ok (some y) → R x y

/-- Both are maps, or neither is. -/
def Json.SameSort (x y : Json) : Prop := x.kind = .map ↔ y.kind = .map

/-- They are alike if neither of them is a map. -/
def Json.AlikeUnlessMap (Alike : Json → Json → Prop) (x y : Json) : Prop :=
  x.kind ≠ .map → y.kind ≠ .map → Alike x y

theorem Json.sameSort_object (m n : Tree) : SameSort (object m) (object n) := by
  rfl

theorem Json.alikeUnlessMap_object (Alike : Json → Json → Prop) (m n : Tree) :
    AlikeUnlessMap Alike (object m) (object n) := by
  intro left
  exact absurd rfl left

/-- No path holds a map in one of two values and something else in the other. -/
abbrev Json.Fits : Json → Json → Prop := Throughout SameSort

/-- Where two values both hold something that is no map, it is alike. -/
abbrev Json.Agrees (Alike : Json → Json → Prop) : Json → Json → Prop :=
  Throughout (AlikeUnlessMap Alike)

/-- No path holds a map in one of two trees and something else in the other. -/
abbrev Tree.Fits : Tree → Tree → Prop := Throughout Json.SameSort

/-- Where two trees both hold something that is no map, it is alike. -/
abbrev Tree.Agrees (Alike : Json → Json → Prop) : Tree → Tree → Prop :=
  Throughout (Json.AlikeUnlessMap Alike)

namespace Json

variable {R : Json → Json → Prop} {v w x : Json} {m n : Tree} {p q : Path}

@[simp] theorem at?_nil (v : Json) : v.at? [] = some v := rfl

theorem at?_cons_eq_some_iff {key : String} {rest : Path} :
    v.at? (key :: rest) = some x ↔
      ∃ w, v.members.get? key = some w ∧ w.at? rest = some x := by
  rw [at?, Option.bind_eq_some_iff]

theorem at?_of_member {key : String} (found : m.get? key = some w) (rest : Path) :
    (object m).at? (key :: rest) = w.at? rest := by
  rw [at?, members_object, found, Option.bind_some]

/-- Only below a map is there anything. -/
theorem exists_object_of_at? {key : String} {rest : Path} (found : v.at? (key :: rest) = some x) :
    ∃ m, v = object m := by
  obtain ⟨w, present, -⟩ := at?_cons_eq_some_iff.1 found
  cases v with
  | object m => exact ⟨m, rfl⟩
  | _ => simp [members] at present

theorem Throughout.root (related : v.Throughout R w) : R v w := related [] v w rfl rfl

/-- Two maps are related throughout if they are related and what they have under each key is
    so throughout. -/
theorem throughout_object_iff :
    (object m).Throughout R (object n) ↔
      R (object m) (object n) ∧
        ∀ key v w, m.get? key = some v → n.get? key = some w → v.Throughout R w := by
  constructor
  · intro related
    refine ⟨related.root, ?_⟩
    intro key v w left right p x y first second
    exact related (key :: p) x y (by rw [at?_of_member left, first])
      (by rw [at?_of_member right, second])
  · intro ⟨root, below⟩ p x y first second
    cases p with
    | nil =>
      cases first
      cases second
      exact root
    | cons key rest =>
      obtain ⟨v, left, inside⟩ := at?_cons_eq_some_iff.1 first
      obtain ⟨w, right, inside'⟩ := at?_cons_eq_some_iff.1 second
      exact below key v w left right rest x y inside inside'

theorem Throughout.below (related : (object m).Throughout R (object n)) {key : String}
    (left : m.get? key = some v) (right : n.get? key = some w) : v.Throughout R w :=
  (throughout_object_iff.1 related).2 key v w left right

theorem Fits.exists_object (fits : v.Fits (object n)) : ∃ m, v = object m := by
  have map : v.kind = .map := fits.root.2 rfl
  cases v with
  | object m => exact ⟨m, rfl⟩
  | _ => cases map

/-- Single values at paths apart have nothing but maps in common. -/
theorem throughout_nest (maps : ∀ m n, R (object m) (object n)) (apart : p.Apart q)
    (v w : Json) : (v.nest p).Throughout R (w.nest q) := by
  induction p generalizing q with
  | nil => exact absurd (Path.nil_overlaps q) apart
  | cons key rest ih =>
    obtain ⟨key', rest', rfl⟩ := List.exists_cons_of_ne_nil apart.ne_nil
    rw [nest, nest, throughout_object_iff]
    refine ⟨maps _ _, ?_⟩
    intro k x y left right
    rw [Tree.get?_put, Tree.get?_empty, Option.ite_none_right_eq_some] at left right
    obtain ⟨rfl, here⟩ := left
    obtain ⟨same, there⟩ := right
    obtain rfl := Option.some.inj here
    obtain rfl := Option.some.inj there
    exact ih (Path.apart_cons_cons.1 apart same)

/-! ## The laws for values -/

theorem empty_merge (v : Json) : (object ∅).merge v = v := by
  cases v with
  | object m => rw [merge_object, members_object, Tree.empty_merge]
  | _ => exact merge_of_kind_ne_map (by simp [kind]) _

theorem merge_empty_iff : v.merge (object ∅) = v ↔ v.kind = .map := by
  rw [merge_object, Tree.merge_empty]
  cases v <;> simp [members, kind]

@[simp] theorem merge_self (v : Json) : v.merge v = v := by
  induction v using induct with
  | plain v plain => exact merge_of_kind_ne_map plain v
  | map m ih =>
    rw [merge_object, members_object]
    congr 1
    apply Members.ext
    intro key
    rw [Tree.get?_merge]
    cases found : m.get? key with
    | none => rfl
    | some v => rw [Option.elim_some, Option.elim_some, ih key v found]

/-- A value laid over another once more changes nothing more. -/
theorem merge_merge_self (v w : Json) : (v.merge w).merge w = v.merge w := by
  induction w using induct generalizing v with
  | plain w plain => simp only [merge_of_kind_ne_map plain]
  | map m ih =>
    simp only [merge_object, members_object]
    congr 1
    apply Members.ext
    intro key
    simp only [Tree.get?_merge]
    cases found : m.get? key with
    | none => rfl
    | some w =>
      cases v.members.get? key with
      | none => simp
      | some v => simp [ih key w found v]

/-- A value laid under what it is under already changes nothing. -/
theorem self_merge_merge (v w : Json) : v.merge (v.merge w) = v.merge w := by
  induction w using induct generalizing v with
  | plain w plain => simp only [merge_of_kind_ne_map plain]
  | map m ih =>
    simp only [merge_object]
    congr 1
    apply Members.ext
    intro key
    simp only [Tree.get?_merge]
    cases found : m.get? key with
    | none => cases v.members.get? key <;> simp
    | some w =>
      cases v.members.get? key with
      | none => simp
      | some v => simp [ih key w found v]

/-- Merging is associative on values that fit. -/
theorem merge_assoc {a b c : Json} (ab : a.Fits b) (ac : a.Fits c) (bc : b.Fits c) :
    (a.merge b).merge c = a.merge (b.merge c) := by
  induction c using induct generalizing a b with
  | plain c plain => simp only [merge_of_kind_ne_map plain]
  | map n ih =>
    -- Each of the three is a map, so that nothing is erased between two others.
    obtain ⟨l, rfl⟩ := ac.exists_object
    obtain ⟨m, rfl⟩ := bc.exists_object
    simp only [merge_object, members_object]
    congr 1
    apply Members.ext
    intro key
    simp only [Tree.get?_merge]
    cases upper : n.get? key with
    | none => rfl
    | some z =>
      cases middle : m.get? key with
      | none => simp
      | some y =>
        cases lower : l.get? key with
        | none => simp
        | some x =>
          have below := ih key z upper (ab.below lower middle) (ac.below lower upper)
            (bc.below middle upper)
          simp [below]

/-- Merging is commutative on values that fit and have the same values where they have no
    maps. -/
theorem merge_comm {a b : Json} (fits : a.Fits b) (agrees : a.Agrees Eq b) :
    a.merge b = b.merge a := by
  induction b using induct generalizing a with
  | plain b plain =>
    have plain' : a.kind ≠ .map := fun map => plain (fits.root.1 map)
    rw [merge_of_kind_ne_map plain, merge_of_kind_ne_map plain']
    exact (agrees.root plain' plain).symm
  | map n ih =>
    obtain ⟨m, rfl⟩ := fits.exists_object
    simp only [merge_object, members_object]
    congr 1
    apply Members.ext
    intro key
    simp only [Tree.get?_merge]
    cases right : n.get? key with
    | none => cases m.get? key <;> simp
    | some y =>
      cases left : m.get? key with
      | none => simp
      | some x => simp [ih key y right (fits.below left right) (agrees.below left right)]

end Json

/-! ## Signs of zeros -/

@[simp] theorem Json.kind_unsignZeros (v : Json) : v.unsignZeros.kind = v.kind := by
  cases v <;> rfl

theorem Members.get?_unsignZeros {lo : Option String} (m : Members lo) (k : String) :
    m.unsignZeros.get? k = (m.get? k).map Json.unsignZeros := by
  induction m with
  | nil => simp [unsignZeros]
  | cons key value above rest ih =>
    rw [unsignZeros, get?_cons, get?_cons, ih]
    split <;> rfl

namespace Json

variable {R : Json → Json → Prop} {v w : Json}

@[simp] theorem members_unsignZeros (v : Json) : v.unsignZeros.members = v.members.unsignZeros := by
  cases v <;> simp [unsignZeros, members]
  all_goals rfl

theorem at?_unsignZeros (v : Json) (p : Path) :
    v.unsignZeros.at? p = (v.at? p).map unsignZeros := by
  induction p generalizing v with
  | nil => rfl
  | cons key rest ih =>
    rw [at?, at?, members_unsignZeros, Members.get?_unsignZeros]
    cases v.members.get? key with
    | none => rfl
    | some w => exact ih w

/-- It makes no difference whether negative zeros are made positive before or after a merge. -/
theorem unsignZeros_merge (v w : Json) :
    (v.merge w).unsignZeros = v.unsignZeros.merge w.unsignZeros := by
  induction w using induct generalizing v with
  | plain w plain =>
    have plain' : w.unsignZeros.kind ≠ .map := by rwa [kind_unsignZeros]
    rw [merge_of_kind_ne_map plain, merge_of_kind_ne_map plain']
  | map m ih =>
    rw [merge_object, unsignZeros, unsignZeros, merge_object, members_unsignZeros]
    congr 1
    apply Members.ext
    intro key
    rw [Members.get?_unsignZeros, Tree.get?_merge, Tree.get?_merge, Members.get?_unsignZeros,
      Members.get?_unsignZeros]
    cases found : m.get? key with
    | none => rfl
    | some w =>
      cases v.members.get? key with
      | none => rfl
      | some v => simp [ih key w found v]

theorem throughout_unsignZeros
    (related : v.Throughout (fun x y => R x.unsignZeros y.unsignZeros) w) :
    v.unsignZeros.Throughout R w.unsignZeros := by
  intro p x y first second
  rw [at?_unsignZeros, Option.map_eq_some_iff] at first second
  obtain ⟨x, first, rfl⟩ := first
  obtain ⟨y, second, rfl⟩ := second
  exact related p x y first second

/-- Up to signs of zeros merging is commutative on values that fit and have the same values,
    up to signs of zeros, where they have no maps. -/
theorem merge_same (fits : v.Fits w) (agrees : v.Agrees (fun x y => x.same y = true) w) :
    (v.merge w).same (w.merge v) = true := by
  rw [same_iff, unsignZeros_merge, unsignZeros_merge]
  apply merge_comm
  · apply throughout_unsignZeros
    intro p x y first second
    rw [SameSort, kind_unsignZeros, kind_unsignZeros]
    exact fits p x y first second
  · apply throughout_unsignZeros
    intro p x y first second left right
    rw [kind_unsignZeros] at left right
    exact same_iff.1 (agrees p x y first second left right)

end Json

/-! ## Trees -/

/-- What is true of a merge: laying something over itself, or laying it over or under what it
    is part of already, changes nothing. It makes no difference how three that fit are put
    together, nor in which order two are that fit and have the same values besides; whether
    negative zeros are told from others or not. -/
structure MergeLaws {α : Type} (merge : α → α → α) (same : α → α → Bool)
    (Fits : α → α → Prop) (Agrees : (Json → Json → Prop) → α → α → Prop) : Prop where
  idempotent : ∀ a, merge a a = a
  over_again : ∀ a b, merge (merge a b) b = merge a b
  under_again : ∀ a b, merge a (merge a b) = merge a b
  associative : ∀ a b c, Fits a b → Fits a c → Fits b c →
    merge (merge a b) c = merge a (merge b c)
  commutative : ∀ a b, Fits a b → Agrees Eq a b → merge a b = merge b a
  commutative_same : ∀ a b, Fits a b → Agrees (fun v w => v.same w = true) a b →
    same (merge a b) (merge b a) = true

theorem Json.mergeLaws : MergeLaws merge same Fits Agrees where
  idempotent := merge_self
  over_again := merge_merge_self
  under_again := self_merge_merge
  associative _ _ _ ab ac bc := merge_assoc ab ac bc
  commutative _ _ fits agrees := merge_comm fits agrees
  commutative_same _ _ fits agrees := merge_same fits agrees

namespace Tree

variable {t u : Tree} {R : Json → Json → Prop} {walked rest : Path} {key : String} {v : Json}

theorem object_merge (t u : Tree) : (Json.object t).merge (.object u) = .object (t.merge u) :=
  Json.merge_object (.object t) u

/-- What is read below a tree is what stands there below its object. -/
theorem readBelow_eq_ok_some_iff :
    t.readBelow walked (key :: rest) = .ok (some v) ↔
      (Json.object t).at? (key :: rest) = some v := by
  induction rest generalizing t walked key with
  | nil => simp [readBelow, Json.at?]
  | cons next rest ih =>
    constructor
    · intro found
      obtain ⟨m, present, below⟩ := map_of_found found
      rw [Json.at?_of_member present]
      exact ih.1 below
    · intro found
      obtain ⟨w, present, below⟩ := Json.at?_cons_eq_some_iff.1 found
      obtain ⟨m, rfl⟩ := Json.exists_object_of_at? below
      rw [Json.members_object] at present
      rw [readBelow_of_map present]
      exact ih.2 below

theorem read_eq_ok_some_iff {p : Path} :
    t.read p = .ok (some v) ↔ p ≠ [] ∧ (Json.object t).at? p = some v := by
  cases p with
  | nil => simp
  | cons key rest => simp [read, readBelow_eq_ok_some_iff]

theorem throughout_object_iff (maps : ∀ m n, R (.object m) (.object n)) :
    (Json.object t).Throughout R (.object u) ↔ t.Throughout R u := by
  constructor
  · intro related p x y first second
    exact related p x y (read_eq_ok_some_iff.1 first).2 (read_eq_ok_some_iff.1 second).2
  · intro related p x y first second
    by_cases root : p = []
    · subst root
      cases first
      cases second
      exact maps t u
    · exact related p x y (read_eq_ok_some_iff.2 ⟨root, first⟩)
        (read_eq_ok_some_iff.2 ⟨root, second⟩)

theorem Fits.object (fits : t.Fits u) : (Json.object t).Fits (.object u) :=
  (throughout_object_iff Json.sameSort_object).2 fits

theorem Agrees.object {Alike : Json → Json → Prop} (agrees : t.Agrees Alike u) :
    (Json.object t).Agrees Alike (.object u) :=
  (throughout_object_iff (Json.alikeUnlessMap_object Alike)).2 agrees

/-- Single values at paths apart have nothing but maps in common. -/
theorem throughout_only {p q : Path} (maps : ∀ m n, R (.object m) (.object n))
    (apart : p.Apart q) (v w : Json) : (only p v).Throughout R (only q w) := by
  rw [← throughout_object_iff maps]
  obtain ⟨key, rest, rfl⟩ := List.exists_cons_of_ne_nil apart.symm.ne_nil
  obtain ⟨key', rest', rfl⟩ := List.exists_cons_of_ne_nil apart.ne_nil
  exact Json.throughout_nest maps apart v w

theorem mergeLaws : MergeLaws merge Members.same Fits Agrees where
  idempotent t := by
    have law := Json.mergeLaws.idempotent (.object t)
    rwa [object_merge, Json.object.injEq] at law
  over_again t u := by
    have law := Json.mergeLaws.over_again (.object t) (.object u)
    rwa [object_merge, object_merge, Json.object.injEq] at law
  under_again t u := by
    have law := Json.mergeLaws.under_again (.object t) (.object u)
    rwa [object_merge, object_merge, Json.object.injEq] at law
  associative t u w tu tw uw := by
    have law := Json.mergeLaws.associative _ _ _ tu.object tw.object uw.object
    rwa [object_merge, object_merge, object_merge, object_merge, Json.object.injEq] at law
  commutative t u fits agrees := by
    have law := Json.mergeLaws.commutative _ _ fits.object agrees.object
    rwa [object_merge, object_merge, Json.object.injEq] at law
  commutative_same t u fits agrees := by
    have law := Json.mergeLaws.commutative_same _ _ fits.object agrees.object
    rwa [object_merge, object_merge, Json.same] at law

/-- The laws of merging hold of trees and of values alike. An empty tree changes nothing on
    either side of a tree; an empty object changes nothing under a value, but over it only if
    the value is a map itself. -/
theorem merge_algebra :
    (∀ t : Tree, (∅ : Tree).merge t = t ∧ t.merge ∅ = t) ∧
    MergeLaws Tree.merge Members.same Tree.Fits Tree.Agrees ∧
    (∀ v : Json, (Json.object ∅).merge v = v) ∧
    (∀ v : Json, v.merge (.object ∅) = v ↔ v.kind = .map) ∧
    MergeLaws Json.merge Json.same Json.Fits Json.Agrees := by
  refine ⟨fun t => ⟨empty_merge t, merge_empty t⟩, mergeLaws, Json.empty_merge, ?_, Json.mergeLaws⟩
  intro v
  exact Json.merge_empty_iff

/-- Three flags below one map. -/
theorem merge_algebra_siblings :
    let foo := only ["feature-gates", "Foo"] (.bool true)
    let bar := only ["feature-gates", "Bar"] (.bool false)
    let baz := only ["feature-gates", "Baz"] .null
    foo.Fits bar ∧ foo.Fits baz ∧ bar.Fits baz ∧ foo.Agrees Eq bar ∧
      (foo.merge bar).merge baz = foo.merge (bar.merge baz) ∧ foo.merge bar = bar.merge foo := by
  intro foo bar baz
  have fits (p q : Path) (apart : p.Apart q) (v w : Json) : (only p v).Fits (only q w) :=
    throughout_only Json.sameSort_object apart v w
  have ab : foo.Fits bar := fits _ _ (by decide) _ _
  have ac : foo.Fits baz := fits _ _ (by decide) _ _
  have bc : bar.Fits baz := fits _ _ (by decide) _ _
  have agrees : foo.Agrees Eq bar :=
    throughout_only (Json.alikeUnlessMap_object Eq) (by decide) _ _
  obtain ⟨-, laws, -⟩ := merge_algebra
  exact ⟨ab, ac, bc, agrees, laws.associative _ _ _ ab ac bc, laws.commutative _ _ ab agrees⟩

end Tree

end FeatureFlags
