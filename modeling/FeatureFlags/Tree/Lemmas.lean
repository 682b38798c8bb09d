import FeatureFlags.Json.Lemmas
import FeatureFlags.Tree.Access
import FeatureFlags.Tree.Merge

/-!
# Lemmas about trees

What reading and writing do at the ends of a path and one step along it, and what a merge
leaves under each key (`Tree.get?_merge`).
-/

namespace FeatureFlags

/-- One key of an overlaid tree: what lies over it is merged into what was there. -/
theorem Members.get?_overlay {lo : Option String} (m : Members lo) (left : Tree) (k : String) :
    (left.overlay m).get? k =
      (m.get? k).elim (left.get? k) fun v =>
        some ((left.get? k).elim v fun present => present.merge v) := by
  induction m generalizing left with
  | nil => simp [Members.overlay]
  | cons key value above rest ih =>
    rw [Members.overlay, ih, Members.get?_insert, Members.get?_cons]
    by_cases hk : k = key
    · subst hk
      rw [rest.get?_eq_none_of_le (String.lt_irrefl k)]
      simp
    · simp [hk]

namespace Tree

theorem get?_merge (left right : Tree) (k : String) :
    (left.merge right).get? k =
      (right.get? k).elim (left.get? k) fun v =>
        some ((left.get? k).elim v fun present => present.merge v) :=
  Members.get?_overlay right left k

@[simp] theorem read_nil (t : Tree) : t.read [] = .error .emptyPath := rfl

@[simp] theorem read_singleton (t : Tree) (key : String) : t.read [key] = .ok (t.get? key) := rfl

@[simp] theorem write_nil (t : Tree) (value : Json) :
    t.write [] value = ⟨t, some .emptyPath⟩ := rfl

@[simp] theorem write_singleton (t : Tree) (key : String) (value : Json) :
    t.write [key] value = ⟨t.put key value, none⟩ := rfl

/-! ## One step along a path -/

section Step

variable {t m : Tree} {whole walked rest : Path} {key next : String} {v w : Json}

theorem readBelow_cons_cons (walked : Path) (t : Tree) (key next : String) (rest : Path) :
    t.readBelow walked (key :: next :: rest) =
      match t.get? key with
      | none => .ok none
      | some (.object members) => readBelow (walked ++ [key]) members (next :: rest)
      | some other => .error (.mismatch (Path.dotted (walked ++ [key])) "map" other) := rfl

theorem writeBelow_cons_cons (whole walked : Path) (t : Tree) (v : Json) (key next : String)
    (rest : Path) :
    t.writeBelow whole walked v (key :: next :: rest) =
      match (t.get? key).getD (.object ∅) with
      | .object members =>
        let below := writeBelow whole (walked ++ [key]) members v (next :: rest)
        ⟨t.put key (.object below.tree), below.error⟩
      | _ => ⟨t, some (.blocked whole.dotted (Path.dotted (walked ++ [key])))⟩ := rfl

/-- A step leads nowhere, into a map, or to a value that is none. -/
theorem get?_cases (t : Tree) (key : String) :
    t.get? key = none ∨ (∃ m : Tree, t.get? key = some (.object m)) ∨
      ∃ w : Json, w.kind ≠ .map ∧ t.get? key = some w := by
  cases t.get? key with
  | none => exact .inl rfl
  | some w =>
    cases w with
    | object m => exact .inr (.inl ⟨m, rfl⟩)
    | _ => exact .inr (.inr ⟨_, by simp [Json.kind], rfl⟩)

theorem readBelow_of_absent (absent : t.get? key = none) :
    t.readBelow walked (key :: next :: rest) = .ok none := by
  rw [readBelow_cons_cons, absent]

theorem readBelow_of_map (found : t.get? key = some (.object m)) :
    t.readBelow walked (key :: next :: rest) =
      m.readBelow (walked ++ [key]) (next :: rest) := by
  rw [readBelow_cons_cons, found]

theorem readBelow_of_plain (found : t.get? key = some w) (plain : w.kind ≠ .map) :
    t.readBelow walked (key :: next :: rest) =
      .error (.mismatch (Path.dotted (walked ++ [key])) "map" w) := by
  rw [readBelow_cons_cons, found]
  cases w with
  | object m => exact absurd rfl plain
  | _ => rfl

/-- A value found below a key stands in a map under that key. -/
theorem map_of_found (found : t.readBelow walked (key :: next :: rest) = .ok (some v)) :
    ∃ m : Tree, t.get? key = some (.object m) ∧
      m.readBelow (walked ++ [key]) (next :: rest) = .ok (some v) := by
  rcases t.get?_cases key with absent | ⟨m, present⟩ | ⟨w, plain, present⟩
  · rw [readBelow_of_absent absent] at found
    cases found
  · rw [readBelow_of_map present] at found
    exact ⟨m, present, found⟩
  · rw [readBelow_of_plain present plain] at found
    cases found

/-- What is read depends on the first key alone. -/
theorem readBelow_congr {u : Tree} (same : t.get? key = u.get? key) :
    t.readBelow walked (key :: rest) = u.readBelow walked (key :: rest) := by
  cases rest with
  | nil => exact congrArg Except.ok same
  | cons next rest => rw [readBelow_cons_cons, readBelow_cons_cons, same]

theorem readBelow_empty (walked : Path) (key : String) (rest : Path) :
    (∅ : Tree).readBelow walked (key :: rest) = .ok none := by
  cases rest with
  | nil => simp [readBelow]
  | cons next rest => exact readBelow_of_absent (get?_empty key)

theorem read_empty {path : Path} (nonempty : path ≠ []) : (∅ : Tree).read path = .ok none := by
  cases path with
  | nil => exact absurd rfl nonempty
  | cons key rest => exact readBelow_empty [] key rest

theorem inside_of_map (found : t.get? key = some (.object m)) :
    (t.get? key).getD (.object ∅) = .object m := by
  rw [found, Option.getD_some]

/-- A map that was put under a key is there to be written into. -/
theorem inside_put (t m : Tree) (key : String) :
    ((t.put key (.object m)).get? key).getD (.object ∅) = .object m :=
  inside_of_map (by rw [get?_put, if_pos rfl])

/-- A missing map reads as an empty one does, and a write makes it. -/
theorem readBelow_of_inside (inside : (t.get? key).getD (.object ∅) = .object m) :
    t.readBelow walked (key :: next :: rest) =
      m.readBelow (walked ++ [key]) (next :: rest) := by
  cases found : t.get? key with
  | none =>
    rw [found, Option.getD_none, Json.object.injEq] at inside
    rw [readBelow_of_absent found, ← inside, readBelow_empty]
  | some w =>
    rw [found, Option.getD_some] at inside
    exact readBelow_of_map (inside ▸ found)

theorem writeBelow_of_inside (inside : (t.get? key).getD (.object ∅) = .object m) :
    t.writeBelow whole walked v (key :: next :: rest) =
      ⟨t.put key (.object (m.writeBelow whole (walked ++ [key]) v (next :: rest)).tree),
        (m.writeBelow whole (walked ++ [key]) v (next :: rest)).error⟩ := by
  rw [writeBelow_cons_cons, inside]

theorem writeBelow_of_plain (found : t.get? key = some w) (plain : w.kind ≠ .map) :
    t.writeBelow whole walked v (key :: next :: rest) =
      ⟨t, some (.blocked whole.dotted (Path.dotted (walked ++ [key])))⟩ := by
  rw [writeBelow_cons_cons, found, Option.getD_some]
  cases w with
  | object m => exact absurd rfl plain
  | _ => rfl

end Step

end Tree

end FeatureFlags
