import FeatureFlags.Json.Writer
import FeatureFlags.Text.Dotted
import FeatureFlags.Text.Excerpt

/-!
# Errors of tree access

What can go wrong on the way to a value in a configuration tree, and its wording.
-/

namespace FeatureFlags

/-- Why a value could not be read or written. -/
inductive TreeError
  /-- The value at `path` is of another kind than the one expected; `found` is the
      beginning of its text. -/
  | wrongType (path : String) (expected : String) (found : String) (foundKind : Json.Kind)
  /-- A write to `path` met a value at `segment` that is not a map. -/
  | blocked (path segment : String)
  /-- The path has no segments. -/
  | emptyPath
  deriving DecidableEq, Inhabited

namespace TreeError

/-- How many bytes of a value's text an error shows. -/
def shownBytes : Nat := 64

/-- The error for a value that is not what was expected. -/
def mismatch (path expected : String) (value : Json) : TreeError :=
  wrongType path expected (excerpt shownBytes value.render) value.kind

def message : TreeError → String
  | wrongType path expected found foundKind =>
    path ++ " accessor error: " ++ found ++ " is of the type " ++ foundKind.name
      ++ ", expected " ++ expected
  | blocked path segment =>
    "value cannot be set because " ++ segment ++ " is not a map (setting " ++ path ++ ")"
  | emptyPath => "cannot set a value at an empty path"

end TreeError

end FeatureFlags
