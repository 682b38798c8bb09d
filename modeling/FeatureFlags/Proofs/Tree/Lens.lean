import FeatureFlags.Proofs.Tree.Access

/-!
# The laws of reading and writing

A write that goes through is read back, leaves what is read at paths apart as it was, and
hides an earlier write at its path; two writes at paths apart may be made in either order
(`Tree.write_laws`). The proofs go by the cases of `Puts`. A write sets the first key of its path
and looks at nothing but the value under it, so that writes under two keys do not meet
(`Puts.elsewhere`). Below a key that two paths share, the same is said of one map further down.
-/

namespace FeatureFlags.Tree

variable {t t' u : Tree} {walked p q rest : Path} {key key' : String} {v w : Json}

theorem write_eq_iff_puts : t.write p v = ⟨t', none⟩ ↔ Puts v t p t' := by
  constructor
  · intro written
    cases p with
    | nil => cases written
    | cons key rest =>
      rcases bars_or_puts t v key rest with ⟨q, w, bar⟩ | ⟨u, puts⟩
      · rw [write, bar.writeBelow] at written
        cases written
      · rw [write, puts.writeBelow] at written
        cases written
        exact puts
  · intro puts
    exact puts.writeBelow

namespace Puts

/-- What was put is read. -/
theorem read_back (puts : Puts v t p t') : t'.readBelow walked p = .ok (some v) := by
  induction puts generalizing walked with
  | @here t key => simp [Tree.readBelow, get?_put]
  | @deeper t m m' key next rest inside further ih =>
    rw [readBelow_of_inside (inside_put t m' key)]
    exact ih

/-- Putting what is read changes nothing. -/
theorem of_found (found : t.readBelow walked p = .ok (some v)) : Puts v t p t := by
  induction p generalizing t walked with
  | nil => cases found
  | cons key rest ih =>
    cases rest with
    | nil =>
      have puts : Puts v t [key] (t.put key v) := .here
      rwa [put_self (Except.ok.inj found)] at puts
    | cons next rest =>
      obtain ⟨m, present, below⟩ := map_of_found found
      have puts := Puts.deeper (inside_of_map present) (ih below)
      rwa [put_self present] at puts

/-- Along a way that is open to one value any other can be put. -/
theorem exists_other (puts : Puts v t p t') (w : Json) : ∃ u, Puts w t p u := by
  induction puts with
  | here => exact ⟨_, .here⟩
  | deeper inside further ih =>
    obtain ⟨u, other⟩ := ih
    exact ⟨_, .deeper inside other⟩

/-- The second of two values put at a path hides the first. -/
theorem overwrite (first : Puts v t p t') (second : Puts w t p u) : Puts w t' p u := by
  induction first generalizing u with
  | @here t key =>
    cases second with
    | here =>
      have puts : Puts w (t.put key v) [key] ((t.put key v).put key w) := .here
      rwa [put_put] at puts
  | @deeper t m m' key next rest inside further ih =>
    cases second with
    | @deeper _ n n' _ _ _ inside' further' =>
      obtain rfl := Json.object.inj (inside.symm.trans inside')
      have puts := Puts.deeper (inside_put t m' key) (ih further')
      rwa [put_put] at puts

/-! ## Paths apart -/

/-- A write sets its first key, to something that depends on what is under this key alone. -/
theorem elsewhere (puts : Puts v t (key :: rest) t') :
    ∃ x, t' = t.put key x ∧
      ∀ u : Tree, u.get? key = t.get? key → Puts v u (key :: rest) (u.put key x) := by
  cases puts with
  | here => exact ⟨v, rfl, fun u same => .here⟩
  | @deeper _ m m' _ next rest inside further =>
    exact ⟨.object m', rfl, fun u same => .deeper (same ▸ inside) further⟩

theorem read_apart (puts : Puts v t p t') (apart : p.Apart q) :
    t'.readBelow walked q = t.readBelow walked q := by
  induction puts generalizing walked q with
  | @here t key =>
    obtain ⟨key', rest, rfl⟩ := List.exists_cons_of_ne_nil apart.ne_nil
    have differ : key' ≠ key := by
      intro same
      exact Path.apart_cons_cons.1 apart same.symm (Path.nil_overlaps rest)
    exact readBelow_congr (get?_put_of_ne t v differ)
  | @deeper t m m' key next rest inside further ih =>
    obtain ⟨key', q, rfl⟩ := List.exists_cons_of_ne_nil apart.ne_nil
    by_cases same : key = key'
    · subst same
      have below : Path.Apart (next :: rest) q := Path.apart_cons_cons.1 apart rfl
      -- The other path goes on as well, so that it is read in the map that was written.
      obtain ⟨next', q, rfl⟩ := List.exists_cons_of_ne_nil below.ne_nil
      rw [readBelow_of_inside (inside_put t m' key), readBelow_of_inside inside]
      exact ih below
    · exact readBelow_congr (get?_put_of_ne t _ (Ne.symm same))

/-- Writes under two keys do not meet. -/
theorem commute_of_ne {p q : Path} (first : Puts v t (key :: p) t')
    (second : Puts w t (key' :: q) u) (differ : key ≠ key') :
    ∃ both, Puts w t' (key' :: q) both ∧ Puts v u (key :: p) both := by
  obtain ⟨x, rfl, again⟩ := first.elsewhere
  obtain ⟨y, rfl, again'⟩ := second.elsewhere
  refine ⟨(t.put key x).put key' y, again' _ (get?_put_of_ne t x differ.symm), ?_⟩
  rw [put_comm t differ]
  exact again _ (get?_put_of_ne t y differ)

theorem commute (first : Puts v t p t') (second : Puts w t q u) (apart : p.Apart q) :
    ∃ both, Puts w t' q both ∧ Puts v u p both := by
  induction first generalizing q u with
  | @here t key =>
    obtain ⟨key', rest, rfl⟩ := List.exists_cons_of_ne_nil apart.ne_nil
    have differ : key ≠ key' := by
      intro same
      exact Path.apart_cons_cons.1 apart same (Path.nil_overlaps rest)
    exact here.commute_of_ne second differ
  | @deeper t m m' key next rest inside further ih =>
    obtain ⟨key', q, rfl⟩ := List.exists_cons_of_ne_nil apart.ne_nil
    by_cases same : key = key'
    · subst same
      have below : Path.Apart (next :: rest) q := Path.apart_cons_cons.1 apart rfl
      cases second with
      | here => exact absurd rfl below.ne_nil
      | @deeper _ n n' _ next' rest' inside' further' =>
        -- Both writes go on in one map, and each of them sets the key once more.
        obtain rfl := Json.object.inj (inside.symm.trans inside')
        obtain ⟨both, after, before⟩ := ih further' below
        have after' := Puts.deeper (inside_put t m' key) after
        have before' := Puts.deeper (inside_put t n' key) before
        rw [put_put] at after' before'
        exact ⟨t.put key (.object both), after', before'⟩
    · exact (Puts.deeper inside further).commute_of_ne second same

end Puts

theorem readList_eq_ok_some_iff {list : List String} :
    t.readList p = .ok (some list) ↔ t.read p = .ok (some (.ofStrings list)) := by
  unfold readList
  cases t.read p with
  | error e => simp
  | ok found =>
    cases found with
    | none => simp
    | some v =>
      simp only [Except.ok.injEq, Option.some.injEq, ← Json.stringList?_eq_some_iff]
      cases v.stringList? <;> simp

/-- A write that goes through is read back and leaves what is read at paths apart from its
    own as it was, errors included. A second write at its path comes to the same as if it
    were the only one, and one at a path apart may as well come first. A list of strings is
    read at a path exactly if writing it there goes through and changes nothing. -/
theorem write_laws (t : Tree) (p : Path) :
    (∀ v t', t.write p v = ⟨t', none⟩ →
      t'.read p = .ok (some v) ∧
      (∀ q, p.Apart q → t'.read q = t.read q) ∧
      (∀ w, t'.write p w = t.write p w ∧ (t.write p w).error = none) ∧
      ∀ q w u, p.Apart q → t.write q w = ⟨u, none⟩ →
        ∃ both, t'.write q w = ⟨both, none⟩ ∧ u.write p v = ⟨both, none⟩) ∧
    ∀ list, t.readList p = .ok (some list) ↔ t.writeList p list = ⟨t, none⟩ := by
  constructor
  · intro v t' written
    have puts : Puts v t p t' := write_eq_iff_puts.1 written
    refine ⟨puts.read_back, fun q apart => puts.read_apart apart, ?_, ?_⟩
    · intro w
      obtain ⟨u, other⟩ := puts.exists_other w
      have once : t.write p w = ⟨u, none⟩ := write_eq_iff_puts.2 other
      have twice : t'.write p w = ⟨u, none⟩ := write_eq_iff_puts.2 (puts.overwrite other)
      exact ⟨twice.trans once.symm, congrArg Written.error once⟩
    · intro q w u apart written'
      obtain ⟨both, after, before⟩ := puts.commute (write_eq_iff_puts.1 written') apart
      exact ⟨both, write_eq_iff_puts.2 after, write_eq_iff_puts.2 before⟩
  · intro list
    rw [readList_eq_ok_some_iff, writeList, write_eq_iff_puts]
    exact ⟨Puts.of_found, Puts.read_back⟩

/-- Two lists below a map that neither write finds there, beside a value that bars the way to a
    third. -/
theorem write_laws_siblings :
    let p : Path := ["feature-gates", "Foo"]
    let q : Path := ["feature-gates", "Bar"]
    let v := Json.ofStrings ["A=true"]
    let w := Json.ofStrings ["B=false"]
    let t := Tree.ofList [("other", .bool true)]
    let t' := Tree.ofList [("feature-gates", .ofMembers [("Foo", v)]), ("other", .bool true)]
    let u := Tree.ofList [("feature-gates", .ofMembers [("Bar", w)]), ("other", .bool true)]
    let both := Tree.ofList
      [("feature-gates", .ofMembers [("Foo", v), ("Bar", w)]), ("other", .bool true)]
    t.write p v = ⟨t', none⟩ ∧ t.write q w = ⟨u, none⟩ ∧
      t'.read p = .ok (some v) ∧
      t'.read ["other", "max"] = .error (.wrongType "other" "map" "true" .bool) ∧
      t'.write p w = t.write p w ∧
      t'.write q w = ⟨both, none⟩ ∧ u.write p v = ⟨both, none⟩ ∧
      t'.readList p = .ok (some ["A=true"]) ∧ t'.writeList p ["A=true"] = ⟨t', none⟩ := by
  intro p q v w t t' u both
  have first : t.write p v = ⟨t', none⟩ := by decide +kernel
  have second : t.write q w = ⟨u, none⟩ := by decide +kernel
  have barred : t.read ["other", "max"] = .error (.wrongType "other" "map" "true" .bool) := rfl
  obtain ⟨back, elsewhere, again, apart⟩ := (write_laws t p).1 v t' first
  obtain ⟨union, after, before⟩ := apart q w u (by decide) second
  have merged : t'.write q w = ⟨both, none⟩ := by decide +kernel
  obtain rfl : union = both := congrArg Written.tree (after.symm.trans merged)
  have list : t'.readList p = .ok (some ["A=true"]) := readList_eq_ok_some_iff.2 back
  exact ⟨first, second, back, (elsewhere _ (by decide)).trans barred, (again w).1, after, before,
    list, ((write_laws t' p).2 _).1 list⟩

end FeatureFlags.Tree
