import FeatureFlags.Proofs.Tree.Lists

/-!
# Reading what was merged

A value other than a map is read from a merged tree just as the upper tree has it
(`Tree.read_merge_of_speaks`), and where the upper tree has nothing, what could be read from
the lower one is still read (`Tree.read_merge_of_silent`). Of many trees laid over one another
it is therefore the last one with something to say that decides.
-/

namespace FeatureFlags

theorem Json.merge_of_kind_ne_map {v : Json} (plain : v.kind ≠ .map) (w : Json) :
    w.merge v = v := by
  cases v with
  | object m => exact absurd rfl plain
  | _ => simp [merge]

namespace Tree

variable {lower upper : Tree} {walked walked' path : Path}

theorem get?_merge_of_absent {key : String} (absent : upper.get? key = none) :
    (lower.merge upper).get? key = lower.get? key := by
  rw [get?_merge, absent, Option.elim_none]

theorem get?_merge_of_plain {key : String} {value : Json} (plain : value.kind ≠ .map)
    (found : upper.get? key = some value) :
    (lower.merge upper).get? key = some value := by
  rw [get?_merge, found, Option.elim_some]
  cases lower.get? key with
  | none => rfl
  | some v => rw [Option.elim_some, Json.merge_of_kind_ne_map plain]

/-- Under a key with a map in the upper tree there is a map in the merged one, whatever the
    lower tree has there. -/
theorem get?_merge_of_object {key : String} {m : Tree}
    (found : upper.get? key = some (.object m)) :
    (lower.merge upper).get? key =
      some (.object (((Json.object lower).child key).members.merge m)) := by
  rw [get?_merge, found, Json.child_object]
  cases lower.get? key with
  | none => simp
  | some v => simp [Json.merge_object]

/-- What could be read below a key is read from the map under it, or from an empty one if
    there is none. -/
theorem readBelow_child {key next : String} {rest : Path} {found : Option Json}
    (read : lower.readBelow walked (key :: next :: rest) = .ok found) :
    ((Json.object lower).child key).members.readBelow (walked ++ [key]) (next :: rest) =
      .ok found := by
  rcases lower.get?_cases key with absent | ⟨m, present⟩ | ⟨v, plain, present⟩
  · rw [readBelow_of_absent absent] at read
    rw [Json.child_object, absent, ← read]
    exact readBelow_empty _ next rest
  · rw [readBelow_of_map present] at read
    rw [Json.child_object, present]
    exact read
  · rw [readBelow_of_plain present plain] at read
    cases read

/-- Where the upper tree has nothing the lower one is read. A way that is barred in the lower
    tree may be open after the merge, so this is about what could be read. -/
theorem readBelow_merge_of_silent {found : Option Json}
    (read : lower.readBelow walked path = .ok found)
    (silent : upper.readBelow walked' path = .ok none) :
    (lower.merge upper).readBelow walked path = .ok found := by
  induction path generalizing walked walked' lower upper with
  | nil => cases read
  | cons key rest ih =>
    cases rest with
    | nil =>
      rw [← read]
      exact readBelow_congr (get?_merge_of_absent (Except.ok.inj silent))
    | cons next rest =>
      rcases upper.get?_cases key with absent | ⟨m, present⟩ | ⟨v, plain, present⟩
      · rw [← read]
        exact readBelow_congr (get?_merge_of_absent absent)
      · rw [readBelow_of_map present] at silent
        rw [readBelow_of_map (get?_merge_of_object present)]
        exact ih (readBelow_child read) silent
      · rw [readBelow_of_plain present plain] at silent
        cases silent

/-- A value of the upper tree that is no map replaces all that the lower one has there or on
    the way. -/
theorem readBelow_merge_of_speaks {value : Json} (plain : value.kind ≠ .map)
    (speaks : upper.readBelow walked' path = .ok (some value)) :
    (lower.merge upper).readBelow walked path = .ok (some value) := by
  induction path generalizing walked walked' lower upper with
  | nil => cases speaks
  | cons key rest ih =>
    cases rest with
    | nil => exact congrArg Except.ok (get?_merge_of_plain plain (Except.ok.inj speaks))
    | cons next rest =>
      obtain ⟨m, above, below⟩ := map_of_found speaks
      rw [readBelow_of_map (get?_merge_of_object above)]
      exact ih below

theorem read_merge_of_silent {found : Option Json} (read : lower.read path = .ok found)
    (silent : upper.read path = .ok none) : (lower.merge upper).read path = .ok found :=
  readBelow_merge_of_silent read silent

theorem read_merge_of_speaks {value : Json} (plain : value.kind ≠ .map)
    (speaks : upper.read path = .ok (some value)) :
    (lower.merge upper).read path = .ok (some value) :=
  readBelow_merge_of_speaks plain speaks

/-! ## Many trees -/

/-- Trees laid over a lower one, each over those before it. -/
def mergeAll (lower : Tree) (uppers : List Tree) : Tree := uppers.foldl merge lower

/-- Trees that have nothing at a path leave what could be read there. -/
theorem read_mergeAll_of_silent {uppers : List Tree} {found : Option Json}
    (read : lower.read path = .ok found) (silent : ∀ upper ∈ uppers, upper.read path = .ok none) :
    (lower.mergeAll uppers).read path = .ok found := by
  induction uppers generalizing lower with
  | nil => exact read
  | cons upper rest ih =>
    have first : (lower.merge upper).read path = .ok found :=
      read_merge_of_silent read (silent upper (by simp))
    exact ih first fun later member => silent later (by simp [member])

/-- The last tree that has something at a path decides what is read there, if that is no map. -/
theorem read_mergeAll_of_speaks {before after : List Tree} {value : Json}
    (plain : value.kind ≠ .map) (speaks : upper.read path = .ok (some value))
    (silent : ∀ later ∈ after, later.read path = .ok none) :
    (lower.mergeAll (before ++ upper :: after)).read path = .ok (some value) := by
  have spoken : ((lower.mergeAll before).merge upper).read path = .ok (some value) :=
    read_merge_of_speaks plain speaks
  rw [mergeAll, List.foldl_append, List.foldl_cons]
  exact read_mergeAll_of_silent spoken silent

end Tree

end FeatureFlags
