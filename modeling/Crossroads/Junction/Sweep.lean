import Crossroads.Junction
/-!
# Deadlock sweeps

As long as the wait-for graph has a cycle, a member of it gives up its quadrants and goes back to waiting.
-/
namespace Crossroads

open Act

/-- Notes that a lane holds and asks for nothing; a blocked lane goes back to waiting. -/
def standDown (l : Lane) : Act Unit := do
  onLane l (fun a => a.setQuadrants 0 0)
  if (← get).isBlocked l then tryOnLane l (fun a => a.transition l .waiting)

theorem runOn_standDown (l : Lane) (j : Junction) :
    (standDown l).runOn j = (.ok (), { j with
      lanes := j.lanes.set l (if j.isBlocked l then ((j.lanes.get l).setQuadrants 0 0).enter .waiting
        else (j.lanes.get l).setQuadrants 0 0) }) := by
  unfold standDown
  have hstate : ((j.lanes.set l ((j.lanes.get l).setQuadrants 0 0)).get l).state = (j.lanes.get l).state := by
    rw [PerLane.get_set_self]
    rfl
  have hblocked : Junction.isBlocked { j with lanes := j.lanes.set l ((j.lanes.get l).setQuadrants 0 0) } l =
      j.isBlocked l := congrArg (fun s => decide (s = LaneState.blocked)) hstate
  rw [runOn_bind_of_ok (runOn_onLane ..), runOn_bind_of_ok (runOn_get _), hblocked]
  by_cases h : j.isBlocked l = true
  · have hwait : ((j.lanes.set l ((j.lanes.get l).setQuadrants 0 0)).get l).transition l .waiting
        = .ok (((j.lanes.get l).setQuadrants 0 0).enter .waiting) := by
      rw [Approach.transition, hstate, of_decide_eq_true h, PerLane.get_set_self]
      rfl
    rw [if_pos h, if_pos h, runOn_tryOnLane, hwait]
    dsimp only
    rw [PerLane.set_set]
  · rw [if_neg h, if_neg h]
    rfl

/-- Takes away what a lane holds and asks for; a blocked lane goes back to waiting.  Answers how much it held. -/
def giveWay (l : Lane) : Act Nat := do
  let released ← onAllocator (fun a => a.release l)
  standDown l
  onMetrics Metrics.recordDeadlockResolved
  return released

def breakFound (rest : Act (List Resolution)) (select : List Lane → Option Lane) :
    Option (List Lane) → Act (List Resolution)
  | none => return []
  | some cycle =>
    match select cycle with
    | none => do
      report (.noVictim cycle)
      refuse (.invariantViolation (Violation.noVictim cycle).detail)
    | some victim => do
      let released ← giveWay victim
      let others ← rest
      return { cycle := cycle, victim := victim, released := released } :: others

def breakCycles : Nat → Act (List Resolution)
  | 0 => return []
  | rounds + 1 => do
    let j ← get
    breakFound (breakCycles rounds) (fun cycle => j.strategy.select cycle j.laneSnapshots j.allocator.snapshot)
      j.waitForGraph.findCycle

/-- Breaks the wait cycles, at most one for each lane. -/
def sweepDeadlocks : Act (List Resolution) := breakCycles 4

end Crossroads
