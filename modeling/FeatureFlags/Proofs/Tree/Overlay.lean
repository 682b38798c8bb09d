import FeatureFlags.Proofs.Tree.Access
import FeatureFlags.Proofs.Tree.Merge

/-!
# What a merge means at each path

A path leads through a tree from map to map (`Tree.mapAt?`). As far as the upper tree has maps
along it, each of them lies over the map that the lower tree has there, or over an empty one
(`Tree.mapAt?_merge`). Beyond its last map the upper tree decides if it has a value, and leaves
the rest to the lower tree if it has none. So what is read at a path after a merge follows from
what the two trees have along it (`Tree.read_merge`).
-/

namespace FeatureFlags.Tree

variable {t m lower upper : Tree} {walked p q rest : Path} {key : String} {w : Json}

theorem mem_keys_merge (lower upper : Tree) (k : String) :
    k ∈ (lower.merge upper).keys ↔ k ∈ upper.keys ∨ k ∈ lower.keys := by
  rw [Members.mem_keys_iff, Members.mem_keys_iff, Members.mem_keys_iff, get?_merge]
  cases upper.get? k <;> simp

/-! ## The map at a path -/

/-- The map at a path; at the empty path it is the tree itself. -/
def mapAt? (t : Tree) : Path → Option Tree
  | [] => some t
  | key :: rest =>
    match t.get? key with
    | some (.object m) => mapAt? m rest
    | _ => none

@[simp] theorem mapAt?_nil (t : Tree) : t.mapAt? [] = some t := rfl

theorem mapAt?_of_map (found : t.get? key = some (.object m)) :
    t.mapAt? (key :: rest) = m.mapAt? rest := by
  rw [mapAt?, found]

theorem mapAt?_of_absent (absent : t.get? key = none) : t.mapAt? (key :: rest) = none := by
  rw [mapAt?, absent]

theorem mapAt?_of_plain (found : t.get? key = some w) (plain : w.kind ≠ .map) :
    t.mapAt? (key :: rest) = none := by
  rw [mapAt?, found]
  cases w with
  | object m => exact absurd rfl plain
  | _ => rfl

/-- The map at a path leads through a map under its first key. -/
theorem map_of_mapAt? (found : t.mapAt? (key :: rest) = some m) :
    ∃ n : Tree, t.get? key = some (.object n) ∧ n.mapAt? rest = some m := by
  rcases t.get?_cases key with absent | ⟨n, present⟩ | ⟨w, plain, present⟩
  · rw [mapAt?_of_absent absent] at found
    cases found
  · rw [mapAt?_of_map present] at found
    exact ⟨n, present, found⟩
  · rw [mapAt?_of_plain present plain] at found
    cases found

theorem mapAt?_append (t : Tree) (p q : Path) :
    t.mapAt? (p ++ q) = (t.mapAt? p).bind fun m => m.mapAt? q := by
  induction p generalizing t with
  | nil => rfl
  | cons key p ih =>
    rw [List.cons_append]
    rcases t.get?_cases key with absent | ⟨n, present⟩ | ⟨w, plain, present⟩
    · rw [mapAt?_of_absent absent, mapAt?_of_absent absent, Option.bind_none]
    · rw [mapAt?_of_map present, mapAt?_of_map present, ih]
    · rw [mapAt?_of_plain present plain, mapAt?_of_plain present plain, Option.bind_none]

theorem mapAt?_eq_some_iff :
    t.mapAt? (key :: rest) = some m ↔ t.readBelow walked (key :: rest) = .ok (some (.object m)) := by
  induction rest generalizing t key walked with
  | nil =>
    constructor
    · intro found
      obtain ⟨n, present, same⟩ := map_of_mapAt? found
      obtain rfl := Option.some.inj same
      exact congrArg Except.ok present
    · intro found
      exact mapAt?_of_map (Except.ok.inj found)
  | cons next rest ih =>
    constructor
    · intro found
      obtain ⟨n, present, below⟩ := map_of_mapAt? found
      rw [readBelow_of_map present]
      exact ih.1 below
    · intro found
      obtain ⟨n, present, below⟩ := map_of_found found
      rw [mapAt?_of_map present]
      exact ih.2 below

/-- Beyond a map it is the map that is read. -/
theorem readBelow_append (found : t.mapAt? q = some m) (key : String) (rest : Path) :
    t.readBelow walked (q ++ key :: rest) = m.readBelow (walked ++ q) (key :: rest) := by
  induction q generalizing t walked with
  | nil =>
    obtain rfl := Option.some.inj found
    rw [List.nil_append, List.append_nil]
  | cons first q ih =>
    obtain ⟨n, present, below⟩ := map_of_mapAt? found
    obtain ⟨next, more, shape⟩ : ∃ next more, q ++ key :: rest = next :: more :=
      List.exists_cons_of_ne_nil (by simp)
    rw [List.cons_append, shape, readBelow_of_map present, ← shape, ih below, List.append_assoc,
      List.singleton_append]

/-! ## Maps over maps -/

theorem getD_mapAt?_empty (q : Path) : ((∅ : Tree).mapAt? q).getD ∅ = ∅ := by
  cases q with
  | nil => rfl
  | cons key rest => rw [mapAt?_of_absent (get?_empty key), Option.getD_none]

theorem getD_mapAt?_cons (t : Tree) (key : String) (rest : Path) :
    (t.mapAt? (key :: rest)).getD ∅ =
      (((Json.object t).child key).members.mapAt? rest).getD ∅ := by
  rw [Json.child_object]
  rcases t.get?_cases key with absent | ⟨n, present⟩ | ⟨w, plain, present⟩
  · rw [mapAt?_of_absent absent, absent]
    exact (getD_mapAt?_empty rest).symm
  · rw [mapAt?_of_map present, present]
    rfl
  · rw [mapAt?_of_plain present plain, present, Option.getD_some,
      Json.members_of_kind_ne_map plain]
    exact (getD_mapAt?_empty rest).symm

/-- Where the upper tree has a map, it lies over the map that the lower tree has there, or
    over an empty one. -/
theorem mapAt?_merge (found : upper.mapAt? q = some m) :
    (lower.merge upper).mapAt? q = some (((lower.mapAt? q).getD ∅).merge m) := by
  induction q generalizing lower upper with
  | nil =>
    obtain rfl := Option.some.inj found
    rfl
  | cons key rest ih =>
    obtain ⟨n, present, below⟩ := map_of_mapAt? found
    rw [mapAt?_of_map (get?_merge_of_object present), ih below, getD_mapAt?_cons]

/-- What bars a way in the upper tree bars it in the merged one. -/
theorem Bars.merge (bar : upper.Bars p q w) : (lower.merge upper).Bars p q w := by
  induction bar generalizing lower with
  | here found plain => exact .here (get?_merge_of_plain plain found) plain
  | deeper found further ih => exact .deeper (get?_merge_of_object found) ih

/-! ## Where a path leaves the upper tree -/

/-- The tree has a map at the path; its root is one. -/
def HasMap (t : Tree) (p : Path) : Prop := p = [] ∨ ∃ m, t.read p = .ok (some (.object m))

theorem hasMap_iff : t.HasMap p ↔ ∃ m, t.mapAt? p = some m := by
  cases p with
  | nil => simp [HasMap]
  | cons key rest => simp [HasMap, read, ← mapAt?_eq_some_iff]

/-- The longest prefix of the path `p` at which the tree has a map is `q`. -/
structure DeepestMap (t : Tree) (p q : Path) : Prop where
  above : q <+: p
  map : t.HasMap q
  deepest : ∀ q', q' <+: p → t.HasMap q' → q'.length ≤ q.length

theorem DeepestMap.unique {q' : Path} (deepest : t.DeepestMap p q)
    (other : t.DeepestMap p q') : q' = q := by
  have length : q'.length = q.length :=
    Nat.le_antisymm (deepest.deepest q' other.above other.map)
      (other.deepest q deepest.above deepest.map)
  exact (List.prefix_of_prefix_length_le other.above deepest.above
    (Nat.le_of_eq length)).eq_of_length length

/-- A path at which nothing is found goes from map to map, and on to a key the last of these
    maps does not have. -/
theorem exists_missing (silent : t.readBelow walked p = .ok none) :
    ∃ q key rest m, p = q ++ key :: rest ∧ t.mapAt? q = some m ∧ m.get? key = none := by
  induction p generalizing t walked with
  | nil => cases silent
  | cons key rest ih =>
    cases rest with
    | nil => exact ⟨[], key, [], t, rfl, rfl, Except.ok.inj silent⟩
    | cons next rest =>
      rcases t.get?_cases key with absent | ⟨n, present⟩ | ⟨w, plain, present⟩
      · exact ⟨[], key, next :: rest, t, rfl, rfl, absent⟩
      · rw [readBelow_of_map present] at silent
        obtain ⟨q, missing, more, m, shape, found, absent⟩ := ih silent
        exact ⟨key :: q, missing, more, m, by rw [shape, List.cons_append],
          by rw [mapAt?_of_map present, found], absent⟩
      · rw [readBelow_of_plain present plain] at silent
        cases silent

theorem deepestMap_of_missing (found : t.mapAt? q = some m) (absent : m.get? key = none)
    (rest : Path) : t.DeepestMap (q ++ key :: rest) q := by
  refine ⟨List.prefix_append q _, hasMap_iff.2 ⟨m, found⟩, ?_⟩
  intro q' above map
  refine Nat.le_of_not_lt fun longer => ?_
  have beyond : q <+: q' :=
    List.prefix_of_prefix_length_le (List.prefix_append q _) above (Nat.le_of_lt longer)
  obtain ⟨more, rfl⟩ := beyond
  obtain ⟨n, mapped⟩ := hasMap_iff.1 map
  rw [mapAt?_append, found, Option.bind_some] at mapped
  -- A longer one would lead through the key that is missing.
  cases more with
  | nil => simp at longer
  | cons next more =>
    have step : next :: more <+: key :: rest := (List.prefix_append_right_inj q).1 above
    obtain ⟨rfl, -⟩ := List.cons_prefix_cons.1 step
    rw [mapAt?_of_absent absent] at mapped
    cases mapped

/-! ## The value at a path -/

/-- A map of the upper tree has in the merged one the keys of the lower tree's map too. -/
theorem read_merge_of_map (found : upper.read p = .ok (some (.object m))) :
    ∃ n, (lower.merge upper).read p = .ok (some (.object n)) ∧
      ∀ k, k ∈ n.keys ↔
        k ∈ m.keys ∨ ∃ m', lower.read p = .ok (some (.object m')) ∧ k ∈ m'.keys := by
  cases p with
  | nil => cases found
  | cons key rest =>
    have merged : (lower.merge upper).mapAt? (key :: rest) =
        some (((lower.mapAt? (key :: rest)).getD ∅).merge m) :=
      mapAt?_merge (mapAt?_eq_some_iff.2 found)
    refine ⟨_, mapAt?_eq_some_iff.1 merged, ?_⟩
    intro k
    simp only [mem_keys_merge, read, ← mapAt?_eq_some_iff]
    cases lower.mapAt? (key :: rest) <;> simp [Members.mem_keys_iff]

/-- Where the upper tree has nothing, the lower one is read from the last map on that the
    upper tree has along the path, if there is a map in the lower tree as well. -/
theorem read_merge_of_missing (silent : upper.read p = .ok none) :
    ∃ q, upper.DeepestMap p q ∧
      (lower.HasMap q → (lower.merge upper).read p = lower.read p) ∧
      (¬ lower.HasMap q → (lower.merge upper).read p = .ok none) := by
  obtain ⟨q, key, rest, m, rfl, found, absent⟩ := exists_missing silent
  have below : (lower.merge upper).read (q ++ key :: rest) =
      ((lower.mapAt? q).getD ∅).readBelow q (key :: rest) := by
    rw [read, readBelow_append (mapAt?_merge found)]
    exact readBelow_congr (get?_merge_of_absent absent)
  refine ⟨q, deepestMap_of_missing found absent rest, ?_, ?_⟩
  · intro map
    obtain ⟨n, mapped⟩ := hasMap_iff.1 map
    rw [below, mapped, read, readBelow_append mapped]
    rfl
  · intro unmapped
    have nothing : lower.mapAt? q = none := by
      rw [Option.eq_none_iff_forall_ne_some]
      intro n mapped
      exact unmapped (hasMap_iff.2 ⟨n, mapped⟩)
    rw [below, nothing, Option.getD_none, readBelow_empty]

/-- What stands at a path after a merge. A value of the upper tree that is no map stands there,
    or bars the way as it did. A map of the upper tree has taken in the keys of the lower
    tree's map. Where the upper tree has nothing, the lower tree is read, errors included, if
    it has a map where the upper tree has its last one along the path; otherwise there is
    nothing. -/
theorem read_merge (lower upper : Tree) (p : Path) :
    (∀ w, w.kind ≠ .map → upper.read p = .ok (some w) →
      (lower.merge upper).read p = .ok (some w)) ∧
    (∀ q w, upper.Obstacle p q w →
      (lower.merge upper).Obstacle p q w ∧
        (lower.merge upper).read p =
          .error (.wrongType (".".intercalate q) "map" (excerpt 64 w.render) w.kind)) ∧
    (∀ m, upper.read p = .ok (some (.object m)) →
      ∃ n, (lower.merge upper).read p = .ok (some (.object n)) ∧
        ∀ k, k ∈ n.keys ↔
          k ∈ m.keys ∨ ∃ m', lower.read p = .ok (some (.object m')) ∧ k ∈ m'.keys) ∧
    (upper.read p = .ok none →
      ∃ q, upper.DeepestMap p q ∧
        (lower.HasMap q → (lower.merge upper).read p = lower.read p) ∧
        (¬ lower.HasMap q → (lower.merge upper).read p = .ok none)) := by
  refine ⟨fun w plain => read_merge_of_speaks plain, ?_, fun m => read_merge_of_map,
    read_merge_of_missing⟩
  intro q w obstacle
  have barred : (lower.merge upper).Obstacle p q w :=
    obstacle_iff_bars.2 (obstacle_iff_bars.1 obstacle).merge
  exact ⟨barred, barred.read⟩

/-- Maps of flags at one path, with a flag each, and a map over a number. The upper flag bars the
    way below it, the lower one is read beside it, and nothing is read in the map over the
    number. -/
theorem read_merge_flags :
    let lower := Tree.ofList
      [("feature-gates", .ofMembers [("Foo", .bool true)]), ("limits", .number (.int 3))]
    let upper := Tree.ofList
      [("feature-gates", .ofMembers [("Bar", .bool false)]), ("limits", .object ∅)]
    let merged := lower.merge upper
    (∃ n : Tree, merged.read ["feature-gates"] = .ok (some (.object n)) ∧
        "Foo" ∈ n.keys ∧ "Bar" ∈ n.keys) ∧
      merged.read ["feature-gates", "Bar"] = .ok (some (.bool false)) ∧
      merged.read ["feature-gates", "Bar", "enabled"] =
        .error (.wrongType "feature-gates.Bar" "map" "false" .bool) ∧
      merged.read ["feature-gates", "Foo"] = .ok (some (.bool true)) ∧
      merged.read ["limits", "max"] = .ok none := by
  intro lower upper merged
  have flag : upper.read ["feature-gates", "Bar"] = .ok (some (.bool false)) := rfl
  have obstacle : upper.Obstacle ["feature-gates", "Bar", "enabled"] ["feature-gates", "Bar"]
      (.bool false) :=
    ⟨by simp, by decide, by decide, flag, by decide⟩
  refine ⟨?_, (read_merge lower upper _).1 _ (by decide) flag,
    ((read_merge lower upper _).2.1 _ _ obstacle).2, ?_, ?_⟩
  · obtain ⟨n, found, keys⟩ := (read_merge lower upper ["feature-gates"]).2.2.1 _ rfl
    exact ⟨n, found, (keys "Foo").2 (.inr ⟨_, rfl, by decide⟩), (keys "Bar").2 (.inl (by decide))⟩
  · obtain ⟨q, deepest, mapped, -⟩ :=
      (read_merge lower upper ["feature-gates", "Foo"]).2.2.2 rfl
    obtain rfl : ["feature-gates"] = q :=
      deepest.unique (deepestMap_of_missing (q := ["feature-gates"]) rfl rfl [])
    exact mapped (hasMap_iff.2 ⟨_, rfl⟩)
  · obtain ⟨q, deepest, -, unmapped⟩ := (read_merge lower upper ["limits", "max"]).2.2.2 rfl
    obtain rfl : ["limits"] = q :=
      deepest.unique (deepestMap_of_missing (q := ["limits"]) rfl rfl [])
    refine unmapped fun map => ?_
    obtain ⟨m, found⟩ := hasMap_iff.1 map
    cases found

end FeatureFlags.Tree
