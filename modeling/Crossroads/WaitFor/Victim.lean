import Crossroads.WaitFor
import Crossroads.Least
import Crossroads.Text
/-!
# Victims

A wait cycle is broken by taking away the quadrants of one of its members.
-/
namespace Crossroads

inductive VictimStrategy where
  | smallestAllocation
  | longestWait
deriving DecidableEq

namespace VictimStrategy

def name : VictimStrategy → String
  | smallestAllocation => "smallest_allocation"
  | longestWait        => "longest_wait"

def all : List VictimStrategy := [smallestAllocation, longestWait]

def ofName? (s : String) : Option VictimStrategy := all.find? (fun v => v.name == s)

/-- The strategy meant by a text: its name or its first word, in any ASCII case, with hyphens or underscores.  An
unknown name is reported as it is looked up. -/
def ofText (s : String) : Except SetupFault VictimStrategy :=
  match Text.plainName s with
  | "smallest_allocation" | "smallest" => .ok smallestAllocation
  | "longest_wait" | "longest" => .ok longestWait
  | other => .error (.unknownStrategy other)

def rank (v : VictimStrategy) (lanes : PerLane LaneSnapshot) (resources : ResourceSnapshot) (l : Lane) : Nat :=
  match v with
  | smallestAllocation => resources.allocation.get l
  | longestWait        => (lanes.get l).arrivalMs

def order (v : VictimStrategy) (lanes : PerLane LaneSnapshot) (resources : ResourceSnapshot) (a b : Lane) : Ordering :=
  (compare (v.rank lanes resources a) (v.rank lanes resources b)).then (compare a.index b.index)

def select (v : VictimStrategy) (cycle : List Lane) (lanes : PerLane LaneSnapshot) (resources : ResourceSnapshot) :
    Option Lane :=
  firstLeast? (v.order lanes resources) cycle

theorem ofName?_name (v : VictimStrategy) : ofName? v.name = some v := by cases v <;> rfl

theorem select_isSome {v : VictimStrategy} {cycle : List Lane} {lanes : PerLane LaneSnapshot}
    {resources : ResourceSnapshot} (h : cycle ≠ []) : (v.select cycle lanes resources).isSome = true := by
  cases hs : v.select cycle lanes resources with
  | none => exact absurd (firstLeast?_eq_none_iff.1 hs) h
  | some _ => rfl

instance (v : VictimStrategy) (lanes : PerLane LaneSnapshot) (resources : ResourceSnapshot) :
    Std.TransCmp (v.order lanes resources) :=
  inferInstanceAs (Std.TransCmp (compareLex (compareOn (v.rank lanes resources)) (compareOn Lane.index)))

/-- The member that gives way is the least by rank and then by lane. -/
theorem select_least {v : VictimStrategy} {cycle : List Lane} {lanes : PerLane LaneSnapshot}
    {resources : ResourceSnapshot} {a b : Lane} (h : v.select cycle lanes resources = some a) (hb : b ∈ cycle) :
    v.rank lanes resources a < v.rank lanes resources b ∨
      v.rank lanes resources a = v.rank lanes resources b ∧ a.index ≤ b.index := by
  have hle := isLE_of_firstLeast? h hb
  rw [order, Ordering.isLE_then_iff_and, Nat.isLE_compare, Nat.compare_eq_lt, Nat.isLE_compare] at hle
  omega

end VictimStrategy

/-- A broken cycle: its members, which of them gave way, and how many quadrants that freed. -/
structure Resolution where
  cycle : List Lane
  victim : Lane
  released : Nat
deriving DecidableEq

end Crossroads
