import Crossroads.Lane
/-!
# The invariant monitor

Violations of the crossroads' invariants are counted and the newest of them kept.  A strict monitor also halts
whoever reports one; the report is counted and kept all the same.
-/
namespace Crossroads

inductive ViolationKind where
  | multipleRunning
  | lockOrder
  | noDeadlockVictim
deriving DecidableEq

namespace ViolationKind

def text : ViolationKind → String
  | multipleRunning  => "multiple running lanes"
  | lockOrder        => "lock order breach"
  | noDeadlockVictim => "deadlock without victim"

def name : ViolationKind → String
  | multipleRunning  => "multiple_running"
  | lockOrder        => "lock_order"
  | noDeadlockVictim => "no_deadlock_victim"

def all : List ViolationKind := [multipleRunning, lockOrder, noDeadlockVictim]

def ofName? (s : String) : Option ViolationKind := all.find? (fun k => k.name == s)

theorem ofName?_name (k : ViolationKind) : ofName? k.name = some k := by cases k <;> rfl

end ViolationKind

structure Violation where
  kind : ViolationKind
  detail : String
deriving DecidableEq

def Violation.message (v : Violation) : String := "invariant violation (" ++ v.kind.text ++ "): " ++ v.detail

/-- The monitor: how many violations there were, and the newest of them, oldest first. -/
structure Monitor where
  strict : Bool := false
  count : Nat := 0
  log : List Violation := []
deriving DecidableEq

namespace Monitor

def retained : Nat := 64

def record (m : Monitor) (v : Violation) : Monitor :=
  { m with count := m.count + 1,
           log := (if retained ≤ m.log.length then m.log.drop 1 else m.log) ++ [v] }

/-- Records a violation; the answer of a strict monitor halts whoever reports it. -/
def report (m : Monitor) (v : Violation) : Except Violation Unit × Monitor :=
  (if m.strict then .error v else .ok (), m.record v)

theorem length_record_le (m : Monitor) (v : Violation) (h : m.log.length ≤ retained) :
    (m.record v).log.length ≤ retained := by
  unfold record
  by_cases hf : retained ≤ m.log.length
  · simp only [hf, if_true, List.length_append, List.length_drop, List.length_cons, List.length_nil]
    unfold retained at *; omega
  · simp only [hf, if_false, List.length_append, List.length_cons, List.length_nil]
    unfold retained at *; omega

end Monitor

def laneListText (ls : List Lane) : String :=
  "[" ++ ", ".intercalate (ls.map (fun l => "LaneId(" ++ toString l.index ++ ")")) ++ "]"

def Violation.running (ls : List Lane) : Violation :=
  ⟨.multipleRunning, "lanes " ++ laneListText ls ++ " are RUNNING at once"⟩

def Violation.noVictim (cycle : List Lane) : Violation :=
  ⟨.noDeadlockVictim, "wait cycle " ++ laneListText cycle ++ " has no eligible victim"⟩

end Crossroads
