/-!
# Dotted text

Segments joined by dots, and the way back. A segment that holds a dot itself comes
back as two.
-/

namespace FeatureFlags

/-- A place in a configuration tree: the keys to follow from the root. -/
abbrev Path := List String

/-- The segments of a path with dots between them. -/
def Path.dotted (path : Path) : String := ".".intercalate path

/-- The runs between the dots, a dot at either end having an empty run beside it. -/
def splitDots : List Char → List (List Char)
  | [] => [[]]
  | c :: rest =>
    if c = '.' then [] :: splitDots rest
    else match splitDots rest with
      | [] => [[c]]
      | run :: runs => (c :: run) :: runs

/-- The path whose segments stand between the dots of a text. -/
def Path.ofDotted (s : String) : Path := (splitDots s.toList).map String.ofList

end FeatureFlags
