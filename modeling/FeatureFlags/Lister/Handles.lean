import FeatureFlags.Lister

/-!
# Handles on caches

A cache is used through handles. A clone of a handle stands for the same cache, so that what
is done through the one is seen through the other.
-/

namespace FeatureFlags

/-- Caches, and for every handle the position of the cache that it stands for. -/
structure Handles where
  caches : List Cache := []
  targets : List Nat := []
  inside : ∀ target ∈ targets, target < caches.length := by simp

/-- What is done with a handle. -/
inductive HandleStep
  | clone (on : Nat)
  | change (on : Nat) (change : CacheChange)

namespace HandleStep

/-- The handle that a step is issued through. -/
def on : HandleStep → Nat
  | clone on | change on _ => on

/-- What a step changes in the cache. -/
def change? : HandleStep → Option CacheChange
  | clone _ => none
  | change _ made => some made

end HandleStep

namespace Handles

def count (handles : Handles) : Nat := handles.targets.length

/-- The cache that a handle stands for. -/
def cache? (handles : Handles) (on : Nat) : Option Cache :=
  handles.targets[on]? >>= (handles.caches[·]?)

/-- One more cache, and the first handle on it. -/
def create (handles : Handles) (cache : Cache) : Handles where
  caches := handles.caches ++ [cache]
  targets := handles.targets ++ [handles.caches.length]
  inside target member := by
    rw [List.length_append, List.length_singleton]
    rcases List.mem_append.1 member with there | new
    · have := handles.inside target there
      omega
    · have := List.mem_singleton.1 new
      omega

/-- One more handle on the cache that a handle stands for. -/
def clone (handles : Handles) (on : Nat) : Handles where
  caches := handles.caches
  targets := handles.targets ++ handles.targets[on]?.toList
  inside target member := by
    rcases List.mem_append.1 member with there | new
    · exact handles.inside target there
    · exact handles.inside target (List.mem_of_getElem? (Option.mem_toList.1 new))

/-- A change of the cache that a handle stands for. -/
def change (handles : Handles) (on : Nat) (change : CacheChange) : Handles :=
  match handles.targets[on]? with
  | none => handles
  | some target =>
    { caches := handles.caches.modify target (·.apply change)
      targets := handles.targets
      inside := by simpa using handles.inside }

def apply (handles : Handles) : HandleStep → Handles
  | .clone on => handles.clone on
  | .change on change => handles.change on change

end Handles

end FeatureFlags
