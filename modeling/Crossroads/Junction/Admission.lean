import Crossroads.Junction
/-!
# Admission to the quadrants

A lane crosses only with its quadrants in hand.  A lane that is denied them is blocked until a later attempt settles
its request.
-/
namespace Crossroads

open Act

def settleRequest (l : Lane) (needed : Nat) : Except TrafficError Nat → Act Bool
  | .ok _ => do
    onLane l (fun a => a.setQuadrants needed 0)
    return true
  | .error (.resourceDenied _ requested _) => do
    onMetrics Metrics.recordDenial
    onLane l (fun a => a.blockOn requested)
    return false
  | .error _ => return false

/-- Gets a lane its quadrants; answers whether it has them.  A denied lane is blocked. -/
def admitLane (l : Lane) : Act Bool := do
  let j ← get
  let needed := j.config.quadrantsPerCrossing
  let held := j.allocator.allocation.get l
  if needed ≤ held then return true
  else
    let granted ← onAllocator (fun a => a.requestQuadrants l (needed - held))
    settleRequest l needed granted

def releaseLane (l : Lane) : Act Unit := do
  discard (onAllocator (fun a => a.release l))
  onLane l (fun a => a.setQuadrants 0 0)

/-- What follows an answered retry: the lane goes on with what it holds, stays blocked, or goes on without. -/
def settleRetry (l : Lane) : Except TrafficError (Option Nat) → Act Bool
  | .ok _ => do
    let held := (← get).allocator.allocation.get l
    onLane l (fun a => a.setQuadrants held 0)
    tryOnLane l (fun a => a.unblock l)
    return true
  | .error (.resourceDenied _ _ _) => return false
  | .error _ => do
    releaseLane l
    tryOnLane l (fun a => a.unblock l)
    return true

/-- Tries again for the request of a blocked lane; answers whether the lane is no longer blocked.  A request that can
never be granted is dropped. -/
def revalidate (l : Lane) : Act Bool := do
  if (← get).isBlocked l then
    let granted ← onAllocator (fun a => a.retryPending l)
    settleRetry l granted
  else return false

def collectLanes {m : Type → Type u} [Monad m] (f : Lane → m Bool) : List Lane → m (List Lane)
  | [] => return []
  | l :: ls => do
    let hit ← f l
    let rest ← collectLanes f ls
    return if hit then l :: rest else rest

def revalidateBlocked : Act (List Lane) := collectLanes revalidate Lane.all

def readmitEmergency (l : Lane) : Act Bool := do
  if (← get).emergencies.isPending l then revalidate l else return false

/-- Tries again for every blocked lane with a pending emergency. -/
def readmitEmergencies : Act Unit := discard (collectLanes readmitEmergency Lane.all)

end Crossroads
