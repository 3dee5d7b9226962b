import Crossroads.Junction
/-!
# Context switches

The crossing changes hands in two halves: the lane that held it is demoted, and the target is promoted.  A forced switch
promotes its target from any state; an unforced one is abandoned when its target is no longer ready.
-/
namespace Crossroads

open Act

/-- Takes a lane out of the crossing if it runs: it becomes ready if vehicles are queued, and waiting if not. -/
def demote (l : Lane) : Act Unit := do
  if ((← get).lanes.get l).state = .running then tryOnLane l (fun a => a.transition l a.yieldState)

def promote (l : Lane) (forced : Bool) : Act Bool := do
  if forced then
    onLane l Approach.forceRunning
    return true
  else if ((← get).lanes.get l).state = .ready then
    tryOnLane l (fun a => a.transition l .running)
    return true
  else return false

def checkMutualExclusion : Act Unit := do
  let running := (← get).runningLanes
  if 1 < running.length then
    report (.running running)
    refuse (.invariantViolation (Violation.running running).detail)

/-- Hands the crossing over; answers whether it changed hands.  An abandoned switch leaves no lane current. -/
def contextSwitch (source : Option Lane) (target : Lane) (forced : Bool) : Act Bool := do
  match source.filter (· ≠ target) with
  | some l => demote l
  | none => pure ()
  if ← promote target forced then
    onScheduler (fun s =>
      { s with current := some target, sliceCount := 0, contextSwitches := s.contextSwitches + 1 })
    let overheadMs := (← get).settings.contextSwitchMs
    onMetrics (fun m => m.recordContextSwitch overheadMs)
    checkMutualExclusion
    return true
  else
    onScheduler (fun s => { s with current := none })
    return false

/-- Swaps the policy.  No lane is current afterwards and none runs. -/
def swapPolicy (p : Policy) : Act Unit := do
  onScheduler (fun s => { s with policy := p, current := none, sliceCount := 0, readyQueue := [] })
  Lane.all.forM demote

end Crossroads
