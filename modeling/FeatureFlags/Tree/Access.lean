import FeatureFlags.Tree.Error

/-!
# Reading and writing at a path

A value in a configuration tree is addressed by the keys to follow from the root.
Reading tells a present value, an absent one and a way that is barred by a value
which is not a map. Writing makes the maps that are missing on the way.
-/

namespace FeatureFlags

/-- What a write leaves behind: the tree as it is afterwards, and the error if it
    failed. -/
structure Written where
  tree : Tree
  error : Option TreeError
  deriving DecidableEq, Inhabited

namespace Tree

/-- Reading below a tree that the keys `walked` led to. -/
def readBelow (walked : Path) (t : Tree) : Path → Except TreeError (Option Json)
  | [] => .error .emptyPath
  | [key] => .ok (t.get? key)
  | key :: rest =>
    match t.get? key with
    | none => .ok none
    | some (.object members) => readBelow (walked ++ [key]) members rest
    | some other => .error (.mismatch (Path.dotted (walked ++ [key])) "map" other)

/-- The value at a path, if there is one. -/
def read (t : Tree) (path : Path) : Except TreeError (Option Json) := t.readBelow [] path

/-- The list of strings at a path, if there is a value. -/
def readList (t : Tree) (path : Path) : Except TreeError (Option (List String)) :=
  match t.read path with
  | .error e => .error e
  | .ok none => .ok none
  | .ok (some value) =>
    match value.stringList? with
    | some list => .ok (some list)
    | none => .error (.mismatch path.dotted "[]string" value)

/-- Writing below a tree that the keys `walked` led to, on the way to `whole`. -/
def writeBelow (whole walked : Path) (t : Tree) (value : Json) : Path → Written
  | [] => ⟨t, some .emptyPath⟩
  | [key] => ⟨t.put key value, none⟩
  | key :: rest =>
    match (t.get? key).getD (.object ∅) with
    | .object members =>
      let below := writeBelow whole (walked ++ [key]) members value rest
      ⟨t.put key (.object below.tree), below.error⟩
    | _ => ⟨t, some (.blocked whole.dotted (Path.dotted (walked ++ [key])))⟩

/-- A value put at a path. -/
def write (t : Tree) (path : Path) (value : Json) : Written := t.writeBelow path [] value path

/-- A list of strings put at a path. -/
def writeList (t : Tree) (path : Path) (list : List String) : Written :=
  t.write path (.ofStrings list)

end Tree

end FeatureFlags
