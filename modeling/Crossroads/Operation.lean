import Crossroads.Command
import Crossroads.Junction.Build
/-!
# Operations

Everything that can be done to a junction from outside, as values, and runs of them.
-/
namespace Crossroads

open Act

inductive Operation where
  | advance (ms : Nat)
  /-- The clock is set, possibly back. -/
  | setClock (ms : Nat)
  | enqueue (l : Lane) (v : Vehicle)
  | enqueueNow (l : Lane) (id : Nat)
  | dequeue (l : Lane)
  | tickLane (l : Lane)
  | setState (l : Lane) (s : LaneState)
  | schedule
  | slice (l : Lane)
  | complete (l : Lane)
  | setPolicy (p : Policy)
  | checkExclusion
  | request (l : Lane) (count : Nat)
  | retry (l : Lane)
  | release (l : Lane)
  | sweep
  /-- An emergency is raised with a stamp of its own. -/
  | raise (l : Lane) (kind : EmergencyKind) (tick : Nat)
  | resolve (l : Lane)
  | recordGenerated
  | recordOverflow
  | recordDenial
  | recordDeadlockResolved
  | recordContextSwitch (ms : Nat)
  | recordEmergencyHandled (ticks : Nat)
  | sleep (ms : Nat)
  | requestStop
  | arrive (l : Lane) (kind : Option EmergencyKind)
  | step
  | pause
  | resume
  | emergency (l : Lane) (kind : EmergencyKind)
  | revalidate
  | command (c : Command)
deriving DecidableEq

inductive Reply where
  | done
  | flag (b : Bool)
  | state (s : LaneState)
  | vehicle (v : Vehicle)
  | decision (d : Decision)
  | slice (r : Option SliceRecord)
  | event (e : Option EmergencyEvent)
  | number (n : Nat)
  | numberOrNone (n : Option Nat)
  | resolutions (rs : List Resolution)
  | lanes (ls : List Lane)
  | outcome (o : StepOutcome)
deriving DecidableEq

namespace Operation

def perform : Operation → Act Reply
  | advance ms => do
    modify (fun j => { j with clock := j.clock + ms })
    return .done
  | setClock ms => do
    modify (fun j => { j with clock := ms })
    return .done
  | enqueue l v => return .state (← enqueueVehicle l v)
  | enqueueNow l id => do return .state (← enqueueVehicle l { id := id, arrivedMs := (← get).clock })
  | dequeue l => return .vehicle (← dequeueVehicle l)
  | tickLane l => return .state (← Crossroads.tickLane l)
  | setState l s => do
    tryOnLane l (fun a => a.transition l s)
    return .done
  | schedule => return .decision (← scheduleNext)
  | slice l => return .slice (← executeSlice l)
  | complete l => return .event (← completeEmergency l)
  | setPolicy p => do
    swapPolicy p
    return .done
  | checkExclusion => do
    checkMutualExclusion
    return .done
  | request l count => do
    let granted ← onAllocator (fun a => a.requestQuadrants l count)
    return .number (← ofExcept granted)
  | retry l => do
    let granted ← onAllocator (fun a => a.retryPending l)
    return .numberOrNone (← ofExcept granted)
  | release l => return .number (← onAllocator (fun a => a.release l))
  | sweep => return .resolutions (← sweepDeadlocks)
  | raise l kind tick => return .flag (← onEmergencies (fun e => e.trigger l kind tick))
  | resolve l => return .event (← onEmergencies (fun e => e.resolve l))
  | recordGenerated => do
    onMetrics Metrics.recordGenerated
    return .done
  | recordOverflow => do
    onMetrics Metrics.recordOverflow
    return .done
  | recordDenial => do
    onMetrics Metrics.recordDenial
    return .done
  | recordDeadlockResolved => do
    onMetrics Metrics.recordDeadlockResolved
    return .done
  | recordContextSwitch ms => do
    onMetrics (fun m => m.recordContextSwitch ms)
    return .done
  | recordEmergencyHandled ticks => do
    onMetrics (fun m => m.recordEmergencyHandled ticks)
    return .done
  | sleep ms => return .flag (← Act.sleep ms)
  | requestStop => return .flag (← Crossroads.requestStop)
  | arrive l kind => return .number (← generateArrival l kind)
  | step => return .outcome (← Crossroads.step)
  | pause => return .flag (← Crossroads.pause)
  | resume => return .flag (← Crossroads.resume)
  | emergency l kind => return .flag (← triggerEmergency l kind)
  | revalidate => return .lanes (← revalidateBlocked)
  | command c => return .flag (← c.apply)

def runOn (op : Operation) (j : Junction) : Except Fault Reply × Junction := op.perform.runOn j

/-- The junction after an operation, whether it was refused or not. -/
def next (j : Junction) (op : Operation) : Junction := (op.runOn j).2

end Operation

def Junction.after (j : Junction) (ops : List Operation) : Junction := ops.foldl Operation.next j

/-- A junction that some allowed operations reach from a freshly built one. -/
inductive Junction.Reachable (allowed : Operation → Prop) : Junction → Prop where
  | built {b : Blueprint} {now : Nat} {j : Junction} : b.build now = .ok j → Reachable allowed j
  | next {j : Junction} {op : Operation} : Reachable allowed j → allowed op → Reachable allowed (Operation.next j op)

theorem Junction.after_append (j : Junction) (xs ys : List Operation) : j.after (xs ++ ys) = (j.after xs).after ys :=
  List.foldl_append

end Crossroads
