import FeatureFlags.Proofs.Tree.Lists

/-!
# When access fails

Whoever follows a path through a tree comes to its end, or to a key that is missing, or to a
value before its end that is no map (`Tree.Bars`). Only the last makes a read or a write
fail. A missing key does not: a write goes on with new maps (`Tree.Puts`), and in a new map
there is nothing that could bar the way. So a write that fails has made none, and it fails
where a read does (`Tree.access_errors`).
-/

namespace FeatureFlags.Tree

variable {t t' : Tree} {whole walked p q q' : Path} {v w w' : Json}

/-- Along the path `p` the tree has at `q`, before the end of the path, the value `w`, which
    is no map. -/
inductive Bars : Tree → Path → Path → Json → Prop
  | here {t : Tree} {key next : String} {rest : Path} {w : Json}
      (found : t.get? key = some w) (plain : w.kind ≠ .map) :
      Bars t (key :: next :: rest) [key] w
  | deeper {t m : Tree} {key next : String} {rest q : Path} {w : Json}
      (found : t.get? key = some (.object m)) (further : Bars m (next :: rest) q w) :
      Bars t (key :: next :: rest) (key :: q) w

/-- Putting the value at the path, with new maps where some are missing, turns the first tree
    into the second. -/
inductive Puts (v : Json) : Tree → Path → Tree → Prop
  | here {t : Tree} {key : String} : Puts v t [key] (t.put key v)
  | deeper {t m m' : Tree} {key next : String} {rest : Path}
      (inside : (t.get? key).getD (.object ∅) = .object m)
      (further : Puts v m (next :: rest) m') :
      Puts v t (key :: next :: rest) (t.put key (.object m'))

/-! ## What a bar does -/

namespace Bars

theorem ne_nil (bar : t.Bars p q w) : q ≠ [] := by
  cases bar <;> simp

theorem plain (bar : t.Bars p q w) : w.kind ≠ .map := by
  induction bar with
  | here found plain => exact plain
  | deeper found further ih => exact ih

theorem above (bar : t.Bars p q w) : q <+: p := by
  induction bar with
  | here found plain => exact List.prefix_append [_] _
  | deeper found further ih => exact List.cons_prefix_cons.2 ⟨rfl, ih⟩

theorem proper (bar : t.Bars p q w) : q ≠ p := by
  induction bar with
  | here found plain => simp
  | deeper found further ih => simpa using ih

theorem found (bar : t.Bars p q w) : t.readBelow walked q = .ok (some w) := by
  induction bar generalizing walked with
  | here found plain => exact congrArg Except.ok found
  | @deeper t m key next rest q w found further ih =>
    obtain ⟨first, more, rfl⟩ := List.exists_cons_of_ne_nil further.ne_nil
    rw [readBelow_of_map found]
    exact ih

theorem readBelow (bar : t.Bars p q w) :
    t.readBelow walked p = .error (.mismatch (Path.dotted (walked ++ q)) "map" w) := by
  induction bar generalizing walked with
  | here found plain => exact readBelow_of_plain found plain
  | deeper found further ih =>
    rw [readBelow_of_map found, ih, List.append_assoc, List.singleton_append]

theorem writeBelow (bar : t.Bars p q w) :
    t.writeBelow whole walked v p =
      ⟨t, some (.blocked whole.dotted (Path.dotted (walked ++ q)))⟩ := by
  induction bar generalizing walked with
  | here found plain => exact writeBelow_of_plain found plain
  | deeper found further ih =>
    -- The map below comes back as it was, and is put where it stood.
    rw [writeBelow_of_inside (inside_of_map found), ih, put_self found, List.append_assoc,
      List.singleton_append]

/-- Nothing can be read below a value that is no map, so there is no second bar. -/
theorem unique (bar : t.Bars p q w) (other : t.Bars p q' w') : q' = q := by
  induction bar generalizing q' with
  | here found plain =>
    cases other with
    | here found' plain' => rfl
    | deeper found' further' =>
      obtain rfl := Option.some.inj (found.symm.trans found')
      exact absurd rfl plain
  | deeper found further ih =>
    cases other with
    | here found' plain' =>
      obtain rfl := Option.some.inj (found.symm.trans found')
      exact absurd rfl plain'
    | deeper found' further' =>
      obtain rfl := Json.object.inj (Option.some.inj (found.symm.trans found'))
      rw [ih further']

/-- In a map just made nothing bars the way. -/
theorem not_empty : ¬ (∅ : Tree).Bars p q w := by
  intro bar
  cases bar with
  | here found plain => simp at found
  | deeper found further => simp at found

end Bars

/-! ## A write that nothing bars -/

namespace Puts

theorem readBelow (puts : Puts v t p t') : ∃ found, t.readBelow walked p = .ok found := by
  induction puts generalizing walked with
  | here => exact ⟨_, rfl⟩
  | deeper inside further ih =>
    rw [readBelow_of_inside inside]
    exact ih

theorem writeBelow (puts : Puts v t p t') : t.writeBelow whole walked v p = ⟨t', none⟩ := by
  induction puts generalizing walked with
  | here => rfl
  | deeper inside further ih => rw [writeBelow_of_inside inside, ih]

end Puts

/-- A way is barred, or a write along it goes through. -/
theorem bars_or_puts (t : Tree) (v : Json) (key : String) (rest : Path) :
    (∃ q w, t.Bars (key :: rest) q w) ∨ ∃ t', Puts v t (key :: rest) t' := by
  induction rest generalizing t key with
  | nil => exact .inr ⟨_, .here⟩
  | cons next rest ih =>
    rcases t.get?_cases key with absent | ⟨m, present⟩ | ⟨w, plain, present⟩
    · -- The map to go on in is a new one, and empty.
      have inside : (t.get? key).getD (.object ∅) = .object ∅ := by
        rw [absent, Option.getD_none]
      rcases ih ∅ next with ⟨q, w, bar⟩ | ⟨made, further⟩
      · exact absurd bar Bars.not_empty
      · exact .inr ⟨_, .deeper inside further⟩
    · rcases ih m next with ⟨q, w, bar⟩ | ⟨made, further⟩
      · exact .inl ⟨_, _, .deeper present bar⟩
      · exact .inr ⟨_, .deeper (inside_of_map present) further⟩
    · exact .inl ⟨_, _, .here present plain⟩

/-! ## The errors of access -/

/-- At `q`, a non-empty prefix of the path `p` other than `p` itself, the tree has the value
    `w`, which is no map. -/
structure Obstacle (t : Tree) (p q : Path) (w : Json) : Prop where
  nonempty : q ≠ []
  above : q <+: p
  proper : q ≠ p
  found : t.read q = .ok (some w)
  plain : w.kind ≠ .map

/-- A value that can be read and is no map bars every way beyond it. -/
theorem bars_of_found (found : t.readBelow walked q = .ok (some w)) (plain : w.kind ≠ .map)
    (next : String) (rest : Path) : t.Bars (q ++ next :: rest) q w := by
  induction q generalizing t walked with
  | nil => cases found
  | cons key q ih =>
    cases q with
    | nil => exact .here (Except.ok.inj found) plain
    | cons key' q =>
      obtain ⟨m, present, below⟩ := map_of_found found
      exact .deeper present (ih below)

theorem obstacle_iff_bars : t.Obstacle p q w ↔ t.Bars p q w := by
  constructor
  · intro obstacle
    obtain ⟨rest, rfl⟩ := obstacle.above
    cases rest with
    | nil => exact absurd (List.append_nil q).symm obstacle.proper
    | cons next rest => exact bars_of_found obstacle.found obstacle.plain next rest
  · intro bar
    exact ⟨bar.ne_nil, bar.above, bar.proper, bar.found, bar.plain⟩

theorem Obstacle.write (obstacle : t.Obstacle p q w) :
    t.write p v = ⟨t, some (.blocked p.dotted q.dotted)⟩ :=
  (obstacle_iff_bars.1 obstacle).writeBelow

theorem Obstacle.read (obstacle : t.Obstacle p q w) :
    t.read p = .error (.mismatch q.dotted "map" w) :=
  (obstacle_iff_bars.1 obstacle).readBelow

theorem Obstacle.unique (obstacle : t.Obstacle p q w) (other : t.Obstacle p q' w') : q' = q :=
  (obstacle_iff_bars.1 obstacle).unique (obstacle_iff_bars.1 other)

/-- Reading and writing fail together, and then for one of two reasons. -/
theorem fails_or_succeeds (t : Tree) (p : Path) (v : Json) :
    p = [] ∨ (∃ q w, t.Obstacle p q w) ∨
      (t.write p v).error = none ∧ ∃ found, t.read p = .ok found := by
  cases p with
  | nil => exact .inl rfl
  | cons key rest =>
    rcases bars_or_puts t v key rest with ⟨q, w, bar⟩ | ⟨t', puts⟩
    · exact .inr (.inl ⟨q, w, obstacle_iff_bars.2 bar⟩)
    · exact .inr (.inr ⟨congrArg Written.error puts.writeBelow, puts.readBelow⟩)

theorem write_error_iff :
    (t.write p v).error ≠ none ↔ p = [] ∨ ∃ q w, t.Obstacle p q w := by
  constructor
  · intro fails
    rcases fails_or_succeeds t p v with empty | barred | ⟨succeeds, -⟩
    · exact .inl empty
    · exact .inr barred
    · exact absurd succeeds fails
  · intro reason
    rcases reason with rfl | ⟨q, w, obstacle⟩
    · simp
    · simp [obstacle.write]

theorem read_error_iff : (∃ e, t.read p = .error e) ↔ p = [] ∨ ∃ q w, t.Obstacle p q w := by
  constructor
  · intro ⟨e, fails⟩
    rcases fails_or_succeeds t p .null with empty | barred | ⟨-, found, succeeds⟩
    · exact .inl empty
    · exact .inr barred
    · rw [succeeds] at fails
      cases fails
  · intro reason
    rcases reason with rfl | ⟨q, w, obstacle⟩
    · exact ⟨_, read_nil t⟩
    · exact ⟨_, obstacle.read⟩

theorem write_tree_of_error (fails : (t.write p v).error ≠ none) : (t.write p v).tree = t := by
  rcases write_error_iff.1 fails with rfl | ⟨q, w, obstacle⟩
  · rw [write_nil]
  · rw [obstacle.write]

/-- Besides where reading fails, reading a list fails at a value that is no list. -/
theorem readList_eq_error_iff {e : TreeError} :
    t.readList p = .error e ↔
      t.read p = .error e ∨ ∃ w, t.read p = .ok (some w) ∧ (∀ list, w ≠ .ofStrings list) ∧
        e = .mismatch p.dotted "[]string" w := by
  unfold readList
  cases t.read p with
  | error e' => simp
  | ok found =>
    cases found with
    | none => simp
    | some w =>
      cases shown : w.stringList? with
      | some list =>
        have isList : w = .ofStrings list := Json.stringList?_eq_some_iff.1 shown
        simp only [shown, reduceCtorEq, Except.ok.injEq, Option.some.injEq, false_or, false_iff]
        rintro ⟨w', rfl, noList, -⟩
        exact noList list isList
      | none =>
        have noList : ∀ list, w ≠ .ofStrings list := by
          intro list same
          rw [same, Json.stringList?_ofStrings] at shown
          cases shown
        simp [shown, noList, eq_comm]

/-- A write fails if its path is empty, or if at a non-empty prefix other than the path itself
    there is a value that is no map, and it leaves the tree as it was. A read fails in the
    same cases. There is one such prefix at most, and both errors name it; that of the read says
    that a map was expected and what was found. Reading a list of strings fails also at a value
    that is none, and this error names the whole path. -/
theorem access_errors (t : Tree) (p : Path) (v : Json) :
    ((t.write p v).error ≠ none ↔ p = [] ∨ ∃ q w, t.Obstacle p q w) ∧
    ((t.write p v).error ≠ none → (t.write p v).tree = t) ∧
    ((∃ e, t.read p = .error e) ↔ (t.write p v).error ≠ none) ∧
    (p = [] → (t.write p v).error = some .emptyPath ∧ t.read p = .error .emptyPath) ∧
    (∀ q w, t.Obstacle p q w →
      (∀ q' w', t.Obstacle p q' w' → q' = q) ∧
      (t.write p v).error = some (.blocked (".".intercalate p) (".".intercalate q)) ∧
      t.read p =
        .error (.wrongType (".".intercalate q) "map" (excerpt 64 w.render) w.kind)) ∧
    ∀ e, t.readList p = .error e ↔
      t.read p = .error e ∨ ∃ w, t.read p = .ok (some w) ∧ (∀ list, w ≠ .ofStrings list) ∧
        e = .wrongType (".".intercalate p) "[]string" (excerpt 64 w.render) w.kind := by
  refine ⟨write_error_iff, write_tree_of_error, read_error_iff.trans write_error_iff.symm, ?_, ?_,
    fun e => readList_eq_error_iff⟩
  · intro empty
    subst empty
    exact ⟨rfl, rfl⟩
  · intro q w obstacle
    exact ⟨fun q' w' other => obstacle.unique other, congrArg Written.error obstacle.write,
      obstacle.read⟩

/-- A flag where a map of flags should be: below it nothing is written or read, and it is no list
    of strings itself. -/
theorem access_errors_scalar :
    let t : Tree := (∅ : Tree).put "feature-gates" (.bool true)
    let p : Path := ["feature-gates", "Foo", "enabled"]
    (t.write p .null).tree = t ∧
      (t.write p .null).error = some (.blocked "feature-gates.Foo.enabled" "feature-gates") ∧
      t.read p = .error (.wrongType "feature-gates" "map" "true" .bool) ∧
      t.readList p = .error (.wrongType "feature-gates" "map" "true" .bool) ∧
      t.readList ["feature-gates"] =
        .error (.wrongType "feature-gates" "[]string" "true" .bool) ∧
      (t.write [] .null).error = some .emptyPath ∧ t.read [] = .error .emptyPath := by
  intro t p
  have obstacle : t.Obstacle p ["feature-gates"] (.bool true) :=
    ⟨by simp, by decide, by decide, rfl, by decide⟩
  obtain ⟨fails, kept, -, -, barred, lists⟩ := access_errors t p .null
  obtain ⟨-, blocked, unread⟩ := barred _ _ obstacle
  obtain ⟨-, -, -, -, -, lists'⟩ := access_errors t ["feature-gates"] .null
  obtain ⟨unwritten, unread'⟩ := (access_errors t [] .null).2.2.2.1 rfl
  refine ⟨kept (fails.2 (.inr ⟨_, _, obstacle⟩)), blocked, unread, (lists _).2 (.inl unread),
    (lists' _).2 (.inr ⟨.bool true, rfl, ?_, rfl⟩), unwritten, unread'⟩
  intro list same
  cases same

end FeatureFlags.Tree
