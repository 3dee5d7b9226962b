import Crossroads.Junction.Admission
import Crossroads.Junction.Sweep
import Crossroads.Routine
/-!
# Admission and sweeps as routines

The allocator and the lanes are used in turns, each under its own lock.  What a lane asks for may have changed between
two of the turns, and a sweep chooses its victim from lanes that were read one after the other.
-/
namespace Crossroads
namespace Routine

open Act

/-! ## Admission -/

def settleRequest (l : Lane) (needed : Nat) : Except TrafficError Nat → Routine Bool
  | .ok _ => do
    locked (.lane l) (onLane l (fun a => a.setQuadrants needed 0))
    return true
  | .error (.resourceDenied _ requested _) => do
    locked .metrics (onMetrics Metrics.recordDenial)
    locked (.lane l) (onLane l (fun a => a.blockOn requested))
    return false
  | .error _ => return false

def admitLane (l : Lane) : Routine Bool := do
  let needed ← act (look (·.config.quadrantsPerCrossing))
  let held ← locked .allocator (look (fun j => j.allocator.allocation.get l))
  if needed ≤ held then return true
  else
    let granted ← locked .allocator (onAllocator (fun a => a.requestQuadrants l (needed - held)))
    settleRequest l needed granted

def releaseLane (l : Lane) : Routine Unit := do
  discard (locked .allocator (onAllocator (fun a => a.release l)))
  locked (.lane l) (onLane l (fun a => a.setQuadrants 0 0))

/-- The pending number is read in one section and asked for in another. -/
def retryPending (l : Lane) : Routine (Except TrafficError (Option Nat)) := do
  let pending ← locked .allocator (look (fun j => j.allocator.request.get l))
  if pending = 0 then return .ok none
  else locked .allocator (onAllocator (fun a => a.retry l pending))

def settleRetry (l : Lane) : Except TrafficError (Option Nat) → Routine Bool
  | .ok _ => do
    let held ← locked .allocator (look (fun j => j.allocator.allocation.get l))
    locked (.lane l) (onLane l (fun a => a.setQuadrants held 0))
    locked (.lane l) (tryOnLane l (fun a => a.unblock l))
    return true
  | .error (.resourceDenied _ _ _) => return false
  | .error _ => do
    releaseLane l
    locked (.lane l) (tryOnLane l (fun a => a.unblock l))
    return true

def revalidate (l : Lane) : Routine Bool := do
  let blocked ← locked (.lane l) (look (·.isBlocked l))
  if blocked then
    let granted ← retryPending l
    settleRetry l granted
  else return false

def revalidateBlocked : Routine (List Lane) := collectLanes revalidate Lane.all

def readmitEmergency (l : Lane) : Routine Bool := do
  let pending ← locked .emergencies (look (·.emergencies.isPending l))
  if pending then revalidate l else return false

def readmitEmergencies : Routine Unit := discard (collectLanes readmitEmergency Lane.all)

/-! ## Sweeps -/

def giveWay (l : Lane) : Routine Nat := do
  let released ← locked .allocator (onAllocator (fun a => a.release l))
  locked (.lane l) (standDown l)
  locked .metrics (onMetrics Metrics.recordDeadlockResolved)
  return released

def breakFound (rest : Routine (List Resolution)) (select : List Lane → Option Lane) :
    Option (List Lane) → Routine (List Resolution)
  | none => return []
  | some cycle =>
    match select cycle with
    | none => act (do
      report (.noVictim cycle)
      refuse (.invariantViolation (Violation.noVictim cycle).detail))
    | some victim => do
      let released ← giveWay victim
      let others ← rest
      return { cycle := cycle, victim := victim, released := released } :: others

def breakCycles : Nat → Routine (List Resolution)
  | 0 => return []
  | rounds + 1 => do
    let lanes ← perLane (fun l => locked (.lane l) (look (fun j => (j.lanes.get l).snapshot l)))
    let resources ← locked .allocator (look (·.allocator.snapshot))
    let strategy ← act (look (·.strategy))
    breakFound (breakCycles rounds) (fun cycle => strategy.select cycle lanes resources)
      (WaitForGraph.build lanes resources).findCycle

def sweepDeadlocks : Routine (List Resolution) := breakCycles 4

/-! ## Carried out alone -/

theorem settleRequest_does (l : Lane) (needed : Nat) (granted : Except TrafficError Nat) :
    (settleRequest l needed granted).Does [] (Crossroads.settleRequest l needed granted) := by
  cases granted with
  | ok free => exact .bind (.locked rfl) fun _ => .pure _
  | error e =>
    cases e with
    | resourceDenied _ requested _ => exact .bind (.locked rfl) fun _ => .bind (.locked rfl) fun _ => .pure _
    | _ => exact .pure _

theorem admitLane_does (l : Lane) : (admitLane l).Does [] (Crossroads.admitLane l) := by
  refine (Does.bind (.act _) fun needed => .bind (.locked rfl) fun held => .ite (.pure _)
    (.bind (.locked rfl) fun granted => settleRequest_does l needed granted)).congr (Act.ext fun j => ?_)
  simp only [Crossroads.admitLane, runOn_bind, runOn_look, runOn_get]

theorem releaseLane_does (l : Lane) : (releaseLane l).Does [] (Crossroads.releaseLane l) :=
  .bind (.bind (.locked rfl) fun _ => .pure _) fun _ => .locked rfl

theorem retryPending_does (l : Lane) :
    (retryPending l).Does [] (onAllocator (fun a => a.retryPending l)) := by
  refine (Does.bind (.locked rfl) fun pending => .ite (.pure _) (.locked rfl)).congr (Act.ext fun j => ?_)
  simp only [runOn_bind, runOn_look, runOn_onAllocator, Allocator.retryPending, Allocator.retry]
  by_cases h : j.allocator.request.get l = 0
  · simp only [if_pos h]
    rfl
  · simp only [if_neg h]
    rfl

theorem settleRetry_does (l : Lane) (granted : Except TrafficError (Option Nat)) :
    (settleRetry l granted).Does [] (Crossroads.settleRetry l granted) := by
  cases granted with
  | ok free =>
    exact (Does.bind (.locked rfl) fun _ => .bind (.locked rfl) fun _ => .bind (.locked rfl) fun _ => .pure _).congr rfl
  | error e =>
    cases e with
    | resourceDenied _ _ _ => exact .pure _
    | _ => exact .bind (releaseLane_does l) fun _ => .bind (.locked rfl) fun _ => .pure _

theorem revalidate_does (l : Lane) : (revalidate l).Does [] (Crossroads.revalidate l) :=
  (Does.bind (.locked rfl) fun _ => .ite (.bind (retryPending_does l) fun granted => settleRetry_does l granted)
    (.pure _)).congr rfl

theorem collectLanes_does {f : Lane → Routine Bool} {a : Lane → Act Bool} (h : ∀ l, (f l).Does [] (a l)) :
    ∀ ls : List Lane, (collectLanes f ls).Does [] (collectLanes a ls)
  | [] => .pure _
  | l :: ls => .bind (h l) fun _ => .bind (collectLanes_does h ls) fun _ => .pure _

theorem revalidateBlocked_does : revalidateBlocked.Does [] Crossroads.revalidateBlocked :=
  collectLanes_does revalidate_does Lane.all

theorem readmitEmergency_does (l : Lane) : (readmitEmergency l).Does [] (Crossroads.readmitEmergency l) :=
  (Does.bind (.locked rfl) fun _ => .ite (revalidate_does l) (.pure _)).congr rfl

theorem readmitEmergencies_does : readmitEmergencies.Does [] Crossroads.readmitEmergencies :=
  .bind (collectLanes_does readmitEmergency_does Lane.all) fun _ => .pure _

theorem giveWay_does (l : Lane) : (giveWay l).Does [] (Crossroads.giveWay l) :=
  .bind (.locked rfl) fun _ => .bind (.locked rfl) fun _ => .bind (.locked rfl) fun _ => .pure _

theorem breakFound_does {rest : Routine (List Resolution)} {a : Act (List Resolution)} (h : rest.Does [] a)
    (select : List Lane → Option Lane) (found : Option (List Lane)) :
    (breakFound rest select found).Does [] (Crossroads.breakFound a select found) := by
  cases found with
  | none => exact .pure _
  | some cycle =>
    unfold breakFound Crossroads.breakFound
    dsimp only
    cases select cycle with
    | none => exact .act _
    | some victim => exact .bind (giveWay_does victim) fun _ => .bind h fun _ => .pure _

theorem breakCycles_does : ∀ rounds, (breakCycles rounds).Does [] (Crossroads.breakCycles rounds)
  | 0 => .pure _
  | rounds + 1 => by
    refine (Does.bind (.perLane rfl _) fun lanes => .bind (.locked rfl) fun resources => .bind (.act _) fun strategy =>
      breakFound_does (breakCycles_does rounds) _ _).congr (Act.ext fun j => ?_)
    simp only [Crossroads.breakCycles, runOn_bind, runOn_look, runOn_get]
    rfl

end Routine
end Crossroads
