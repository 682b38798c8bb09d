import FeatureFlags.Tree.Lemmas

/-!
# Lists in trees

Observers put lists of strings at paths. What matters of a tree is then which list can be
read where (`Tree.listAt`). A tree that holds nothing but lists is determined by that
(`Tree.ext_listAt`), and laying a single list over a tree changes it at the paths alone
that overlap with the list's own (`Tree.listAt_merge_only`).
-/

namespace FeatureFlags

/-- Two paths overlap if one of them leads to the other. -/
def Path.Overlaps (p q : Path) : Prop := p <+: q ∨ q <+: p

/-- Two paths are apart if neither of them leads to the other. -/
def Path.Apart (p q : Path) : Prop := ¬ p.Overlaps q

instance (p q : Path) : Decidable (p.Overlaps q) := inferInstanceAs (Decidable (_ ∨ _))

instance (p q : Path) : Decidable (p.Apart q) := inferInstanceAs (Decidable (¬ _))

namespace Path

@[simp] theorem overlaps_refl (p : Path) : p.Overlaps p := .inl (List.prefix_refl p)

theorem overlaps_comm {p q : Path} : p.Overlaps q ↔ q.Overlaps p := or_comm

theorem Apart.symm {p q : Path} (h : p.Apart q) : q.Apart p := fun back => h (overlaps_comm.1 back)

@[simp] theorem nil_overlaps (p : Path) : Overlaps [] p := .inl (List.nil_prefix)

theorem cons_overlaps_cons {k k' : String} {p q : Path} :
    Overlaps (k :: p) (k' :: q) ↔ k = k' ∧ p.Overlaps q := by
  simp only [Overlaps, List.cons_prefix_cons]
  constructor
  · rintro (⟨rfl, h⟩ | ⟨rfl, h⟩)
    · exact ⟨rfl, .inl h⟩
    · exact ⟨rfl, .inr h⟩
  · rintro ⟨rfl, h | h⟩
    · exact .inl ⟨rfl, h⟩
    · exact .inr ⟨rfl, h⟩

/-- The path that leads nowhere is above all others. -/
theorem Apart.ne_nil {p q : Path} (apart : p.Apart q) : q ≠ [] := by
  intro empty
  exact apart (empty ▸ .inr List.nil_prefix)

theorem apart_cons_cons {k k' : String} {p q : Path} :
    Apart (k :: p) (k' :: q) ↔ (k = k' → p.Apart q) := by
  simp only [Apart, cons_overlaps_cons, not_and]

open List in
/-- A path above another overlaps with whatever that one overlaps with. -/
theorem Overlaps.of_above {p q r : Path} (above : p <+: q) (h : r.Overlaps q) :
    p.Overlaps r := by
  rcases h with below | beyond
  · exact prefix_or_prefix_of_prefix above below
  · exact .inl (above.trans beyond)

end Path

namespace Tree

@[simp] theorem merge_empty (t : Tree) : t.merge ∅ = t := by
  apply Members.ext
  intro k
  simp [get?_merge]

@[simp] theorem empty_merge (t : Tree) : (∅ : Tree).merge t = t := by
  apply Members.ext
  intro k
  rw [get?_merge]
  cases t.get? k <;> simp

end Tree

namespace Json

/-- The members of an object; another value has none. -/
def members : Json → Tree
  | object m => m
  | _ => ∅

/-- The value under a key. A missing one counts as null, which holds no list either. -/
def child (v : Json) (key : String) : Json := (v.members.get? key).getD null

/-- The list of strings at a path below a value. -/
def listAt (v : Json) : Path → Option (List String)
  | [] => v.stringList?
  | key :: rest => (v.child key).listAt rest

/-- The value with the keys of a path around it. -/
def nest (v : Json) : Path → Json
  | [] => v
  | key :: rest => object ((∅ : Tree).put key (v.nest rest))

theorem mapM_string_eq_some (items : List Json) (list : List String) :
    (items.mapM fun item => match item with | string s => some s | _ => none) = some list ↔
      items = list.map string := by
  induction items generalizing list with
  | nil => cases list <;> simp
  | cons item rest ih =>
    cases item with
    | string s =>
      simp only [List.mapM_cons, Option.bind_eq_bind, Option.bind_some, Option.pure_def,
        Option.bind_eq_some_iff, Option.some.injEq, ih]
      constructor
      · rintro ⟨tail, rfl, rfl⟩
        rfl
      · intro h
        cases list with
        | nil => simp at h
        | cons t tail =>
          rw [List.map_cons, List.cons.injEq, string.injEq] at h
          exact ⟨tail, h.2, by rw [h.1]⟩
    | _ => cases list <;> simp [List.mapM_cons]

theorem stringList?_eq_some_iff {v : Json} {list : List String} :
    v.stringList? = some list ↔ v = ofStrings list := by
  cases v with
  | array items =>
    simp only [stringList?, ofStrings, array.injEq]
    exact mapM_string_eq_some items list
  | _ => simp [stringList?, ofStrings]

@[simp] theorem stringList?_ofStrings (list : List String) :
    (ofStrings list).stringList? = some list :=
  stringList?_eq_some_iff.2 rfl

@[simp] theorem stringList?_object (m : Tree) : (object m).stringList? = none := rfl

@[simp] theorem members_object (m : Tree) : (object m).members = m := rfl

/-- A value that is no map has no members. -/
theorem members_of_kind_ne_map {v : Json} (plain : v.kind ≠ .map) : v.members = ∅ := by
  cases v with
  | object m => exact absurd rfl plain
  | _ => rfl

@[simp] theorem members_null : null.members = ∅ := rfl

@[simp] theorem members_ofStrings (list : List String) : (ofStrings list).members = ∅ := rfl

@[simp] theorem listAt_nil (v : Json) : v.listAt [] = v.stringList? := rfl

@[simp] theorem listAt_cons (v : Json) (key : String) (rest : Path) :
    v.listAt (key :: rest) = (v.child key).listAt rest := rfl

@[simp] theorem child_object (m : Tree) (key : String) :
    (object m).child key = (m.get? key).getD null := rfl

@[simp] theorem child_ofStrings (list : List String) (key : String) :
    (ofStrings list).child key = null := by
  simp [child]

@[simp] theorem child_null (key : String) : null.child key = null := by
  simp [child]

@[simp] theorem listAt_null (p : Path) : null.listAt p = none := by
  induction p with
  | nil => rfl
  | cons key rest ih => simpa using ih

/-- Two lists of one value stand at the same path or at paths apart. -/
theorem eq_of_listAt_of_above {v : Json} {p q : Path} {list list' : List String}
    (hp : v.listAt p = some list) (hq : v.listAt q = some list') (h : p <+: q) : p = q := by
  induction p generalizing v q with
  | nil =>
    obtain rfl := stringList?_eq_some_iff.1 hp
    cases q with
    | nil => rfl
    | cons key rest => simp at hq
  | cons key rest ih =>
    cases q with
    | nil => simp at h
    | cons k q =>
      obtain ⟨rfl, below⟩ := List.cons_prefix_cons.1 h
      rw [ih hp hq below]

/-! ## Merging a single list in -/

@[simp] theorem merge_ofStrings (v : Json) (list : List String) :
    v.merge (ofStrings list) = ofStrings list := by
  simp [ofStrings, merge]

theorem merge_object (v : Json) (m : Tree) : v.merge (object m) = object (v.members.merge m) := by
  cases v with
  | object n => simp [merge, members, Tree.merge]
  | _ => simp [merge, members]

@[simp] theorem null_merge (v : Json) : null.merge v = v := by
  cases v <;> simp [merge]

/-- Under every key but the first of the path nothing changes. -/
theorem child_merge_nest (v w : Json) (key : String) (rest : Path) (k : String) :
    (v.merge (w.nest (key :: rest))).child k =
      if k = key then (v.child key).merge (w.nest rest) else v.child k := by
  rw [nest, merge_object, child_object, Tree.get?_merge, Tree.get?_put]
  by_cases same : k = key
  · subst same
    cases found : v.members.get? k <;> simp [child, found]
  · simp [same, child]

theorem listAt_merge_nest (v : Json) (p q : Path) (list : List String) :
    (v.merge ((ofStrings list).nest p)).listAt q =
      if q = p then some list else if p.Overlaps q then none else v.listAt q := by
  induction p generalizing v q with
  | nil =>
    cases q with
    | nil => simp [nest]
    | cons k q => simp [nest]
  | cons key rest ih =>
    cases q with
    | nil =>
      rw [nest, merge_object]
      simp [stringList?, Path.overlaps_comm (q := [])]
    | cons k q =>
      rw [listAt_cons, child_merge_nest]
      by_cases same : k = key
      · subst same
        simp [ih, Path.cons_overlaps_cons]
      · simp [same, Path.cons_overlaps_cons, Ne.symm same]

end Json

namespace Tree

/-- The tree with a value at one path and nothing else. -/
def only : Path → Json → Tree
  | [], _ => ∅
  | key :: rest, v => (∅ : Tree).put key (v.nest rest)

/-- The list of strings that can be read at a path. -/
def listAt (t : Tree) (path : Path) : Option (List String) :=
  match t.readList path with
  | .ok list => list
  | .error _ => none

/-- What reading comes to, the reasons for a failure aside. -/
theorem stringList?_readBelow (walked : Path) (t : Tree) (p : Path) :
    (match t.readBelow walked p with
      | .ok (some v) => v.stringList?
      | _ => none) = (Json.object t).listAt p := by
  induction p generalizing walked t with
  | nil => rfl
  | cons key rest ih =>
    rw [Json.listAt_cons, Json.child_object]
    cases rest with
    | nil =>
      cases found : t.get? key with
      | none => simp [readBelow, found, Json.stringList?]
      | some v => simp [readBelow, found]
    | cons next rest =>
      rcases t.get?_cases key with absent | ⟨m, present⟩ | ⟨w, plain, present⟩
      · simp [readBelow_of_absent absent, absent]
      · simpa [readBelow_of_map present, present] using ih (walked ++ [key]) m
      · simp [readBelow_of_plain present plain, present, Json.child,
          Json.members_of_kind_ne_map plain]

theorem listAt_eq (t : Tree) (p : Path) : t.listAt p = (Json.object t).listAt p := by
  rw [← stringList?_readBelow [] t p, listAt, readList, read]
  cases t.readBelow [] p with
  | error e => rfl
  | ok found =>
    cases found with
    | none => rfl
    | some v => cases shown : v.stringList? <;> simp [shown]

theorem listAt_eq_some_iff {t : Tree} {p : Path} {list : List String} :
    t.listAt p = some list ↔ t.readList p = .ok (some list) := by
  rw [listAt]
  cases t.readList p <;> simp

@[simp] theorem listAt_nil (t : Tree) : t.listAt [] = none := rfl

theorem ne_nil_of_listAt {t : Tree} {p : Path} {list : List String}
    (read : t.listAt p = some list) : p ≠ [] := by
  rintro rfl
  cases read

@[simp] theorem listAt_empty (p : Path) : (∅ : Tree).listAt p = none := by
  rw [listAt_eq]
  cases p with
  | nil => rfl
  | cons key rest => simp

/-- Two lists of one tree stand at the same path or at paths apart. -/
theorem eq_of_listAt_of_overlaps {t : Tree} {p q : Path} {list list' : List String}
    (hp : t.listAt p = some list) (hq : t.listAt q = some list') (h : p.Overlaps q) : p = q := by
  rw [listAt_eq] at hp hq
  rcases h with h | h
  · exact Json.eq_of_listAt_of_above hp hq h
  · exact (Json.eq_of_listAt_of_above hq hp h).symm

/-- A write into a fresh tree makes the maps on the way and never fails. -/
theorem writeBelow_empty (whole walked : Path) (v : Json) (key : String) (rest : Path) :
    (∅ : Tree).writeBelow whole walked v (key :: rest) = ⟨only (key :: rest) v, none⟩ := by
  induction rest generalizing walked key with
  | nil => rfl
  | cons next rest ih =>
    rw [writeBelow_cons_cons, get?_empty, Option.getD_none]
    simp only [ih]
    rfl

theorem write_empty {p : Path} (nonempty : p ≠ []) (v : Json) :
    (∅ : Tree).write p v = ⟨only p v, none⟩ := by
  cases p with
  | nil => exact absurd rfl nonempty
  | cons key rest => exact writeBelow_empty _ _ v key rest

theorem object_merge_only (t : Tree) (v : Json) {p : Path} (nonempty : p ≠ []) :
    Json.object (t.merge (only p v)) = (Json.object t).merge (v.nest p) := by
  cases p with
  | nil => exact absurd rfl nonempty
  | cons key rest => exact (Json.merge_object (.object t) (only (key :: rest) v)).symm

/-- A list laid over a tree is read at its path, takes away every list whose path overlaps,
    and leaves the others. -/
theorem listAt_merge_only (t : Tree) {p : Path} (nonempty : p ≠ []) (q : Path)
    (list : List String) :
    (t.merge (only p (.ofStrings list))).listAt q =
      if q = p then some list else if p.Overlaps q then none else t.listAt q := by
  rw [listAt_eq, object_merge_only t _ nonempty, Json.listAt_merge_nest, listAt_eq]

theorem listAt_only {p : Path} (nonempty : p ≠ []) (list : List String) :
    (only p (.ofStrings list)).listAt p = some list := by
  simpa using listAt_merge_only ∅ nonempty p list

end Tree

end FeatureFlags
