import Crossroads.Fault
import Crossroads.Text
/-!
# Scheduling policies

The seven policies by name, and the numbers that tune them.
-/
namespace Crossroads

inductive Policy where
  | sjf
  /-- Shortest remaining time first, the one policy that takes the crossing from a running lane. -/
  | srtf
  | agingSjf
  | weightedSjf
  | predictiveSjf
  | multilevelFeedback
  | priorityRoundRobin
deriving DecidableEq, Inhabited

namespace Policy

def name : Policy → String
  | sjf                => "sjf"
  | srtf               => "srtf"
  | agingSjf           => "aging_sjf"
  | weightedSjf        => "weighted_sjf"
  | predictiveSjf      => "predictive_sjf"
  | multilevelFeedback => "multilevel_feedback"
  | priorityRoundRobin => "priority_round_robin"

def all : List Policy := [sjf, srtf, agingSjf, weightedSjf, predictiveSjf, multilevelFeedback, priorityRoundRobin]

def ofName? (s : String) : Option Policy := all.find? (fun p => p.name == s)

/-- The policy meant by a text: its name or a short form of it, in any ASCII case, with hyphens or underscores.  An
unknown name is reported as it was given. -/
def ofText (s : String) : Except SetupFault Policy :=
  match Text.plainName s with
  | "sjf" => .ok sjf
  | "srtf" => .ok srtf
  | "aging" | "aging_sjf" => .ok agingSjf
  | "weighted" | "weighted_sjf" => .ok weightedSjf
  | "predictive" | "predictive_sjf" => .ok predictiveSjf
  | "mlfq" | "multilevel" | "multilevel_feedback" => .ok multilevelFeedback
  | "priority_rr" | "priority_round_robin" => .ok priorityRoundRobin
  | _ => .error (.unknownPolicy s)

/-- Whether a policy may take the crossing from a lane before its quantum is used up. -/
def isPreemptive (p : Policy) : Bool := p = srtf

theorem ofName?_name (p : Policy) : ofName? p.name = some p := by cases p <;> rfl

end Policy

structure PolicyParams where
  crossTimeSecs : Float := 3.0
  timeQuantum : Nat := 3
  levels : Nat := 3
  agingThreshold : Nat := 50

end Crossroads
