import Crossroads.Junction.Step
import Crossroads.Routine.Pass
import Crossroads.Routine.Slice
import Crossroads.Routine.Quadrants
/-!
# Steps as routines

No lock is held from one part of a step to the next.  The scheduler's lock is free again when the chosen lane is
admitted, and what the pass decided may no longer hold when the slice begins.
-/
namespace Crossroads
namespace Routine

open Act

def completeServed (l : Lane) (record : Option SliceRecord) : Routine Unit :=
  if record.isSome then discard (completeEmergency l) else pure ()

def serveLane (l : Lane) : Routine (Option SliceRecord × Bool) := do
  let admitted ← admitLane l
  if admitted then
    let record ← executeSlice l
    completeServed l record
    releaseLane l
    return (record, false)
  else return (none, true)

def serveDecided : Option Lane → Routine (Option SliceRecord × Bool)
  | some l => serveLane l
  | none => return (none, false)

def sweepEvery (tick : Nat) : Routine (List Resolution) := do
  let interval ← act (look (·.config.deadlockCheckInterval))
  if tick % interval = 0 then
    let resolutions ← sweepDeadlocks
    discard revalidateBlocked
    return resolutions
  else return []

def step : Routine StepOutcome := do
  let paused ← act (look (·.paused))
  if paused then return .paused
  else
    let tick ← act nextTick
    readmitEmergencies
    let decision ← scheduleNext
    act (payOverhead decision)
    let served ← serveDecided decision.lane
    let resolutions ← sweepEvery tick
    return .ran decision served.1 served.2 resolutions

/-! ## Other operations -/

def triggerEmergency (l : Lane) (kind : EmergencyKind) : Routine Bool := do
  let tick ← locked .scheduler (look (·.scheduler.tick))
  locked .emergencies (onEmergencies (fun e => e.trigger l kind tick))

def raiseArrived (l : Lane) : Option EmergencyKind → Routine Unit
  | some kind => discard (triggerEmergency l kind)
  | none => pure ()

def settleArrival (l : Lane) (emergency : Option EmergencyKind) (id : Nat) : Except TrafficError Unit → Routine Nat
  | .error e => do
    locked .metrics (onMetrics Metrics.recordOverflow)
    act (refuse e)
  | .ok () => do
    raiseArrived l emergency
    return id

def generateArrival (l : Lane) (emergency : Option EmergencyKind) : Routine Nat := do
  let id ← act nextVehicle
  locked .metrics (onMetrics Metrics.recordGenerated)
  let now ← act (look (·.clock))
  let offered ← locked (.lane l) (offerVehicle l { id := id, arrivedMs := now, emergency := emergency.isSome })
  settleArrival l emergency id offered

/-! ## Carried out alone -/

theorem completeServed_does (l : Lane) (record : Option SliceRecord) :
    (completeServed l record).Does [] (Crossroads.completeServed l record) :=
  .ite (.bind (completeEmergency_does l) fun _ => .pure _) (.pure _)

theorem serveLane_does (l : Lane) : (serveLane l).Does [] (Crossroads.serveLane l) :=
  .bind (admitLane_does l) fun _ => .ite (.bind (executeSlice_does l) fun record =>
    .bind (completeServed_does l record) fun _ => .bind (releaseLane_does l) fun _ => .pure _) (.pure _)

theorem serveDecided_does (l : Option Lane) : (serveDecided l).Does [] (Crossroads.serveDecided l) := by
  cases l with
  | some l => exact serveLane_does l
  | none => exact .pure _

theorem sweepEvery_does (tick : Nat) : (sweepEvery tick).Does [] (Crossroads.sweepEvery tick) :=
  (Does.bind (.act _) fun _ => .ite (.bind (breakCycles_does 4) fun _ =>
    .bind (.bind revalidateBlocked_does fun _ => .pure _) fun _ => .pure _) (.pure _)).congr rfl

theorem step_does : step.Does [] Crossroads.step :=
  (Does.bind (.act _) fun _ => .ite (.pure _) (.bind (.act _) fun tick => .bind readmitEmergencies_does fun _ =>
    .bind scheduleNext_does fun decision => .bind (.act _) fun _ => .bind (serveDecided_does decision.lane) fun _ =>
    .bind (sweepEvery_does tick) fun _ => .pure _)).congr rfl

theorem triggerEmergency_does (l : Lane) (kind : EmergencyKind) :
    (triggerEmergency l kind).Does [] (Crossroads.triggerEmergency l kind) :=
  (Does.bind (.locked rfl) fun _ => .locked rfl).congr rfl

theorem raiseArrived_does (l : Lane) (emergency : Option EmergencyKind) :
    (raiseArrived l emergency).Does [] (Crossroads.raiseArrived l emergency) := by
  cases emergency with
  | some kind => exact .bind (triggerEmergency_does l kind) fun _ => .pure _
  | none => exact .pure _

theorem settleArrival_does (l : Lane) (emergency : Option EmergencyKind) (id : Nat)
    (offered : Except TrafficError Unit) :
    (settleArrival l emergency id offered).Does [] (Crossroads.settleArrival l emergency id offered) := by
  cases offered with
  | error e => exact .bind (.locked rfl) fun _ => .act _
  | ok _ => exact .bind (raiseArrived_does l emergency) fun _ => .pure _

theorem generateArrival_does (l : Lane) (emergency : Option EmergencyKind) :
    (generateArrival l emergency).Does [] (Crossroads.generateArrival l emergency) :=
  (Does.bind (.act _) fun id => .bind (.locked rfl) fun _ => .bind (.act _) fun _ => .bind (.locked rfl) fun offered =>
    settleArrival_does l emergency id offered).congr rfl

end Routine
end Crossroads
