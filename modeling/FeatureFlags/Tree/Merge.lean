import FeatureFlags.Json.Basic

/-!
# Deep merge

The right value wins, except that two maps are merged key by key. Lists are
replaced whole.
-/

namespace FeatureFlags

mutual

/-- `left` overlaid with a value. -/
def Json.merge (left : Json) : Json → Json
  | .object right =>
    match left with
    | .object members => .object (members.overlay right)
    | _ => .object right
  | right => right

/-- A tree overlaid with members, one after the other. -/
def Members.overlay (left : Members none) {lo : Option String} : Members lo → Members none
  | .nil => left
  | .cons key value _ rest =>
    let merged := (left.get? key).elim value fun present => present.merge value
    (left.insert key (above_none key) merged).overlay rest

end

/-- `left` overlaid with `right`. -/
def Tree.merge (left right : Tree) : Tree := left.overlay right

end FeatureFlags
