import Crossroads.Operation
import Crossroads.Routine.Step
/-!
# Operations as routines

Every operation as its sections, and the proof that a thread alone at the junction carries out just the operation
(`routine_does`).
-/
namespace Crossroads

open Act

namespace Routine

def command : Command → Routine Bool
  | .pause => act pause
  | .resume => act resume
  | .setPolicy p => do
    let before ← locked .scheduler (look (·.scheduler.policy))
    swapPolicy p
    return before ≠ p
  | .triggerEmergency lane kind => do
    let l ← act (ofExcept (Lane.ofIndex lane))
    triggerEmergency l kind
  | .shutdown => act requestStop

theorem command_does (c : Command) : (command c).Does [] c.apply := by
  cases c with
  | pause => exact .act _
  | resume => exact .act _
  | setPolicy p => exact (Does.bind (.locked rfl) fun _ => .bind (swapPolicy_does p) fun _ => .pure _).congr rfl
  | triggerEmergency lane kind => exact .bind (.act _) fun l => triggerEmergency_does l kind
  | shutdown => exact .act _

end Routine

namespace Operation

open Routine (act locked)

def routine : Operation → Routine Reply
  | advance ms => act (perform (advance ms))
  | setClock ms => act (perform (setClock ms))
  | enqueue l v => locked (.lane l) (perform (enqueue l v))
  | enqueueNow l id => do
    let now ← act (look (·.clock))
    locked (.lane l) (perform (enqueue l { id := id, arrivedMs := now }))
  | dequeue l => locked (.lane l) (perform (dequeue l))
  | tickLane l => locked (.lane l) (perform (tickLane l))
  | setState l s => locked (.lane l) (perform (setState l s))
  | schedule => do return .decision (← Routine.scheduleNext)
  | slice l => do return .slice (← Routine.executeSlice l)
  | complete l => do return .event (← Routine.completeEmergency l)
  | setPolicy p => do
    Routine.swapPolicy p
    return .done
  | checkExclusion => do
    Routine.checkMutualExclusion
    return .done
  | request l count => do
    let granted ← locked .allocator (onAllocator (fun a => a.requestQuadrants l count))
    return .number (← act (ofExcept granted))
  | retry l => do
    let granted ← Routine.retryPending l
    return .numberOrNone (← act (ofExcept granted))
  | release l => locked .allocator (perform (release l))
  | sweep => do return .resolutions (← Routine.sweepDeadlocks)
  | raise l kind tick => locked .emergencies (perform (raise l kind tick))
  | resolve l => locked .emergencies (perform (resolve l))
  | recordGenerated => locked .metrics (perform recordGenerated)
  | recordOverflow => locked .metrics (perform recordOverflow)
  | recordDenial => locked .metrics (perform recordDenial)
  | recordDeadlockResolved => locked .metrics (perform recordDeadlockResolved)
  | recordContextSwitch ms => locked .metrics (perform (recordContextSwitch ms))
  | recordEmergencyHandled ticks => locked .metrics (perform (recordEmergencyHandled ticks))
  | sleep ms => act (perform (sleep ms))
  | requestStop => act (perform requestStop)
  | arrive l kind => do return .number (← Routine.generateArrival l kind)
  | step => do return .outcome (← Routine.step)
  | pause => act (perform pause)
  | resume => act (perform resume)
  | emergency l kind => do return .flag (← Routine.triggerEmergency l kind)
  | revalidate => do return .lanes (← Routine.revalidateBlocked)
  | command c => do return .flag (← Routine.command c)

/-- **A thread alone at the junction carries out the operation.** -/
theorem routine_does (op : Operation) : op.routine.Does [] op.perform := by
  cases op with
  | enqueueNow l id => exact (Routine.Does.bind (.act _) fun _ => .locked rfl).congr rfl
  | schedule => exact .bind Routine.scheduleNext_does fun _ => .pure _
  | slice l => exact .bind (Routine.executeSlice_does l) fun _ => .pure _
  | complete l => exact .bind (Routine.completeEmergency_does l) fun _ => .pure _
  | setPolicy p => exact .bind (Routine.swapPolicy_does p) fun _ => .pure _
  | checkExclusion => exact .bind (Routine.checkMutualExclusion_does rfl) fun _ => .pure _
  | request l count => exact .bind (.locked rfl) fun _ => .bind (.act _) fun _ => .pure _
  | retry l => exact .bind (Routine.retryPending_does l) fun _ => .bind (.act _) fun _ => .pure _
  | sweep => exact .bind (Routine.breakCycles_does 4) fun _ => .pure _
  | arrive l kind => exact .bind (Routine.generateArrival_does l kind) fun _ => .pure _
  | step => exact .bind Routine.step_does fun _ => .pure _
  | emergency l kind => exact .bind (Routine.triggerEmergency_does l kind) fun _ => .pure _
  | revalidate => exact .bind Routine.revalidateBlocked_does fun _ => .pure _
  | command c => exact .bind (Routine.command_does c) fun _ => .pure _
  | advance | setClock | sleep | requestStop | pause | resume => exact .act _
  | enqueue | dequeue | tickLane | setState | release | raise | resolve | recordGenerated | recordOverflow
    | recordDenial | recordDeadlockResolved | recordContextSwitch | recordEmergencyHandled => exact .locked rfl

end Operation
end Crossroads
