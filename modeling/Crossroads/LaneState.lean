/-!
# Lane states

A lane is a process: it waits, is ready, runs, or is blocked on quadrants.  `LaneState.permits` says which changes
the state machine allows; for some of them it matters whether the lane's queue is empty.
-/
namespace Crossroads

inductive LaneState where
  | waiting
  | ready
  | running
  | blocked
deriving DecidableEq, Inhabited

namespace LaneState

def text : LaneState → String
  | waiting => "WAITING"
  | ready   => "READY"
  | running => "RUNNING"
  | blocked => "BLOCKED"

def all : List LaneState := [waiting, ready, running, blocked]

def ofText? (s : String) : Option LaneState := all.find? (fun x => x.text == s)

/-- Whether a lane may change from one state to another, given whether its queue is empty.

Any lane may keep its state or become blocked, and a blocked lane may always go back to waiting.  A lane becomes ready
only with vehicles queued, and falls back to waiting only without. -/
def permits (source target : LaneState) (queueEmpty : Bool) : Bool :=
  if source = target then true
  else match source, target with
    | _, blocked       => true
    | ready, running   => true
    | blocked, waiting => true
    | waiting, ready   => !queueEmpty
    | running, ready   => !queueEmpty
    | blocked, ready   => !queueEmpty
    | running, waiting => queueEmpty
    | ready, waiting   => queueEmpty
    | _, _             => false

theorem ofText?_text (s : LaneState) : ofText? s.text = some s := by cases s <;> rfl

theorem permits_self (s : LaneState) (e : Bool) : s.permits s e = true := by simp [permits]

theorem permits_blocked (s : LaneState) (e : Bool) : s.permits .blocked e = true := by cases s <;> rfl

theorem permits_running {s : LaneState} {e : Bool} : s.permits .running e = true ↔ s = .ready ∨ s = .running := by
  cases s <;> cases e <;> decide

end LaneState

end Crossroads
