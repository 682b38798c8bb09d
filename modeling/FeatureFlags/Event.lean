/-!
# Events

What observers announce: a reason for machines and a message for people. Recording
an event never fails.
-/

namespace FeatureFlags

inductive EventKind
  /-- Something changed. -/
  | normal
  /-- Something went wrong and the work went on. -/
  | warning
  deriving DecidableEq, Inhabited

def EventKind.name : EventKind → String
  | normal => "Normal"
  | warning => "Warning"

structure Event where
  kind : EventKind
  reason : String
  message : String
  deriving DecidableEq, Inhabited

/-- A recorder that keeps every event, in order. -/
structure Journal where
  events : List Event := []

namespace Journal

def record (journal : Journal) (event : Event) : Journal := ⟨journal.events ++ [event]⟩

/-- The recorded events of one kind. -/
def ofKind (journal : Journal) (kind : EventKind) : List Event :=
  journal.events.filter (·.kind = kind)

def size (journal : Journal) : Nat := journal.events.length

def isEmpty (journal : Journal) : Bool := journal.events.isEmpty

end Journal

end FeatureFlags
