import Crossroads.Junction.Switch
/-!
# Scheduling passes

A pass serves a pending emergency first, unless its lane is blocked.  Otherwise a running lane keeps the crossing until
its quantum is used up, and then the policy is asked.
-/
namespace Crossroads

open Act

/-- The emergency a pass serves: the next one whose lane is not blocked. -/
def Junction.dueEmergency (j : Junction) : Option EmergencyEvent := j.emergencies.nextWhere (fun l => !j.isBlocked l)

/-- Whether a running lane keeps the crossing without the policy being asked. -/
def Junction.withinQuantum (j : Junction) : Bool :=
  !j.scheduler.policy.isPreemptive && j.scheduler.sliceCount < j.settings.timeQuantum

def preempt (target : Lane) : Act Decision := do
  let j ← get
  if (j.lanes.get target).state = .running then
    onScheduler (fun s => { s with current := some target })
    return .keep target
  else
    discard (contextSwitch j.scheduler.current target true)
    return .switch j.scheduler.current target true

/-- Leaves the crossing with the lane that runs, if one does; a used-up quantum begins anew. -/
def keepRunning : Option Lane → Act Decision
  | none => return .idle
  | some l => do
    let quantum := (← get).settings.timeQuantum
    onScheduler (fun s => if quantum ≤ s.sliceCount then { s with sliceCount := 0 } else s)
    return .keep l

/-- Gives the crossing to the lane that the policy chose.  If that lane is no longer ready, the pass answers as before
the attempt. -/
def handOver (running : Option Lane) (target : Lane) : Act Decision := do
  let current := (← get).scheduler.current
  let source := running.orElse (fun _ => current)
  if ← contextSwitch source target false then return .switch source target false
  else return match running with
    | some l => .keep l
    | none => .idle

def followChoice (running : Option Lane) : Option Lane → Act Decision
  | some target => if running = some target then keepRunning running else handOver running target
  | none => keepRunning running

def passByPolicy : Act Decision := do
  let j ← get
  let view := j.snapshot
  onScheduler (fun s => { s with readyQueue := Scheduler.readyByArrival view })
  let running := view.firstRunning.map (·.lane)
  if running.isSome && j.withinQuantum then keepRunning running
  else followChoice running (j.scheduler.policy.choose j.settings.policyParams view)

def serveDue : Option EmergencyEvent → Act Decision
  | some event => preempt event.lane
  | none => passByPolicy

def scheduleNext : Act Decision := do
  onScheduler (fun s => { s with tick := s.tick + 1 })
  serveDue (← get).dueEmergency

end Crossroads
