import Crossroads.Junction.Pass
import Crossroads.Junction.Slice
import Crossroads.Junction.Admission
import Crossroads.Junction.Sweep
/-!
# Steps of the simulation

One step retries blocked emergency lanes, makes a scheduling pass, lets the chosen lane cross with its quadrants, and
every so often looks for deadlocks.
-/
namespace Crossroads

open Act

inductive StepOutcome where
  | paused
  /-- What was decided, the slice that was executed, whether quadrants were denied, and which deadlocks were broken. -/
  | ran (decision : Decision) (record : Option SliceRecord) (denied : Bool) (resolutions : List Resolution)
deriving DecidableEq

def completeServed (l : Lane) (record : Option SliceRecord) : Act Unit :=
  if record.isSome then discard (completeEmergency l) else pure ()

def serveLane (l : Lane) : Act (Option SliceRecord × Bool) := do
  if ← admitLane l then
    let record ← executeSlice l
    completeServed l record
    releaseLane l
    return (record, false)
  else return (none, true)

def serveDecided : Option Lane → Act (Option SliceRecord × Bool)
  | some l => serveLane l
  | none => return (none, false)

def payOverhead (decision : Decision) : Act Unit :=
  if decision.isSwitch then do discard (sleep (← get).settings.contextSwitchMs) else pure ()

/-- Breaks the deadlocks and tries again for the blocked lanes, every so many steps. -/
def sweepEvery (tick : Nat) : Act (List Resolution) := do
  if tick % (← get).config.deadlockCheckInterval = 0 then
    let resolutions ← sweepDeadlocks
    discard revalidateBlocked
    return resolutions
  else return []

def nextTick : Act Nat := modifyGet (fun j => (j.tick + 1, { j with tick := j.tick + 1 }))

def step : Act StepOutcome := do
  if (← get).paused then return .paused
  else
    let tick ← nextTick
    readmitEmergencies
    let decision ← scheduleNext
    payOverhead decision
    let served ← serveDecided decision.lane
    let resolutions ← sweepEvery tick
    return .ran decision served.1 served.2 resolutions

/-! ## Other actions -/

def pause : Act Bool := modifyGet (fun j => (!j.paused, { j with paused := true }))

def resume : Act Bool := modifyGet (fun j => (j.paused, { j with paused := false }))

def requestStop : Act Bool := modifyGet (fun j => (!j.stopped, { j with stopped := true }))

/-- Raises an emergency, stamped with the number of scheduling passes; answers whether it is a new one. -/
def triggerEmergency (l : Lane) (kind : EmergencyKind) : Act Bool := do
  let tick := (← get).scheduler.tick
  onEmergencies (fun e => e.trigger l kind tick)

def enqueueVehicle (l : Lane) (v : Vehicle) : Act LaneState := do
  tryOnLane l (fun a => a.enqueue v)
  return ((← get).lanes.get l).state

def dequeueVehicle (l : Lane) : Act Vehicle := do
  let (v, a) ← ofExcept ((← get).lanes.get l).dequeue
  modify (fun j => { j with lanes := j.lanes.set l a })
  return v

def tickLane (l : Lane) : Act LaneState := do
  tryOnLane l (fun a => a.tick l)
  return ((← get).lanes.get l).state

def offerVehicle (l : Lane) (v : Vehicle) : Act (Except TrafficError Unit) := do
  match ((← get).lanes.get l).enqueue v with
  | .error e => return .error e
  | .ok a =>
    modify (fun j => { j with lanes := j.lanes.set l a })
    return .ok ()

def nextVehicle : Act Nat := modifyGet (fun j => (j.nextVehicle, { j with nextVehicle := j.nextVehicle + 1 }))

def raiseArrived (l : Lane) : Option EmergencyKind → Act Unit
  | some kind => discard (triggerEmergency l kind)
  | none => pure ()

def settleArrival (l : Lane) (emergency : Option EmergencyKind) (id : Nat) : Except TrafficError Unit → Act Nat
  | .error e => do
    onMetrics Metrics.recordOverflow
    refuse e
  | .ok () => do
    raiseArrived l emergency
    return id

/-- A vehicle comes up to a lane; answers its number.  A full lane turns it away, which is counted; an emergency vehicle
that is let in raises its emergency. -/
def generateArrival (l : Lane) (emergency : Option EmergencyKind) : Act Nat := do
  let id ← nextVehicle
  onMetrics Metrics.recordGenerated
  let now := (← get).clock
  let offered ← offerVehicle l { id := id, arrivedMs := now, emergency := emergency.isSome }
  settleArrival l emergency id offered

end Crossroads
