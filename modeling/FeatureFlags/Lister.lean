import FeatureFlags.Gate
import FeatureFlags.Log
import FeatureFlags.Table

/-!
# Looking up feature gates

A lister answers lookups by name. `Cache` is the lister that a watch on the cluster
feeds: until it is filled as a whole for the first time, and again after the watch
was lost, it answers no lookup, but keeps taking in what it is told.
-/

namespace FeatureFlags

/-- What lookups answer: a gate, its absence, or why there is no answer. -/
abbrev Lister := String → Except ListerError (Option Gate)

/-- The gates known, by name. -/
structure Cache where
  synced : Bool := false
  gates : Table String Gate := ∅

/-- What may be done to a cache. -/
inductive CacheChange
  | upsert (gate : Gate)
  | remove (name : String)
  | replaceAll (gates : List Gate)
  | markUnsynced

namespace Cache

/-- The gates of a list by their names; of several with one name the last is kept. -/
def gatesByName (gates : List Gate) : Table String Gate :=
  Table.ofList (gates.map fun gate => (gate.name, gate))

def apply (cache : Cache) : CacheChange → Cache
  | .upsert gate => { cache with gates := cache.gates.insert gate.name gate }
  | .remove name => { cache with gates := cache.gates.erase name }
  | .replaceAll gates => ⟨true, gatesByName gates⟩
  | .markUnsynced => { cache with synced := false }

/-- A cache filled with gates. -/
def ofGates (gates : List Gate) : Cache := ({} : Cache).apply (.replaceAll gates)

/-- The gate kept under a name, whether lookups are answered or not. -/
def held? (cache : Cache) (name : String) : Option Gate := cache.gates.get? name

/-- The gate that a change hands back: a removal that which was kept under the name. -/
def handedBack (cache : Cache) : CacheChange → Option Gate
  | .remove name => cache.held? name
  | .upsert _ | .replaceAll _ | .markUnsynced => none

/-- The answer to a lookup. -/
def get (cache : Cache) : Lister := fun name =>
  if cache.synced then .ok (cache.held? name) else .error .notSynced

def size (cache : Cache) : Nat := cache.gates.size

def isEmpty (cache : Cache) : Bool := cache.gates.isEmpty

theorem get?_gatesByName (gates : List Gate) (name : String) :
    (gatesByName gates).get? name = (gates.filter (·.name = name)).getLast? := by
  rw [gatesByName, Table.get?_ofList, List.filter_map, List.getLast?_map, Option.map_map]
  exact congrFun Option.map_id _

end Cache

/-- What a change writes to the log. -/
def CacheChange.log : CacheChange → List LogEntry
  | upsert gate => [.gateUpdated gate.name]
  | replaceAll gates => [.cacheReplaced (Cache.gatesByName gates).size]
  | remove _ | markUnsynced => []

/-- A cache behind a connection that may be down. -/
structure Source where
  cache : Cache
  outage : Option String := none

namespace Source

/-- While the connection is down every lookup fails. -/
def lister (source : Source) : Lister := fun name =>
  match source.outage with
  | some reason => .error (.unavailable reason)
  | none => source.cache.get name

end Source

end FeatureFlags
