/-!
# Chronological order

Events in the order in which they are reported: what falls on one moment is told apart by name, so
that the order does not depend on which of the parts at work came first. And alarms in the order in
which they were set, which is the order in which those of one moment ring.
-/

namespace RegistrySession.Rehearsal

/-- Sorts by time, and what falls on one moment by name. What shares both keeps its order. -/
def chronological {α : Type} (name : α → String) (events : List (Nat × α)) : List (Nat × α) :=
  events.mergeSort fun left right =>
    left.1 < right.1 || left.1 = right.1 && decide (name left.2 ≤ name right.2)

/-- The alarms that stand now, given those that stood before in the order in which they were set:
what was set since then comes last. -/
def inOrderSet {α : Type} [DecidableEq α] (before current : List α) : List α :=
  before.filter current.contains ++ current.filter fun alarm => !before.contains alarm

end RegistrySession.Rehearsal
