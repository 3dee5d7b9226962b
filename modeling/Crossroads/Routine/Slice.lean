import Crossroads.Junction.Slice
import Crossroads.Routine
/-!
# Slices as routines

Opening and closing a slice are sections under the metrics and the lane; the batch crosses in between with no lock held,
and the slice is recorded under the scheduler's lock afterwards.
-/
namespace Crossroads
namespace Routine

open Act

def underCounts {α : Type} (l : Lane) (a : Act α) : Routine α := under .metrics (locked (.lane l) a)

def finishSlice (l : Lane) (startMs : Nat) : Option Nat → Routine (Option SliceRecord)
  | none => return none
  | some served => do
    act (crossBatch served)
    let endMs ← act (look (·.clock))
    underCounts l (closeSlice l startMs endMs)
    let record : SliceRecord := { lane := l, startMs := startMs, endMs := endMs, vehicles := served }
    locked .scheduler (recordSlice record)
    return some record

def executeSlice (l : Lane) : Routine (Option SliceRecord) := do
  let startMs ← act (look (·.clock))
  let opened ← underCounts l (openSlice l startMs)
  finishSlice l startMs opened

def countResolved (tick : Nat) : Option EmergencyEvent → Routine (Option EmergencyEvent)
  | none => return none
  | some event => do
    locked .metrics (onMetrics (fun m => m.recordEmergencyHandled (tick - event.arrivalTick)))
    return some event

def completeEmergency (l : Lane) : Routine (Option EmergencyEvent) := do
  let tick ← locked .scheduler (look (·.scheduler.tick))
  let resolved ← locked .emergencies (onEmergencies (fun e => e.resolve l))
  countResolved tick resolved

/-! ## Carried out alone -/

theorem underCounts_does {α : Type} (l : Lane) (a : Act α) : (underCounts l a).Does [] a := .under rfl (.locked rfl)

theorem finishSlice_does (l : Lane) (startMs : Nat) (opened : Option Nat) :
    (finishSlice l startMs opened).Does [] (Crossroads.finishSlice l startMs opened) := by
  cases opened with
  | none => exact .pure _
  | some served =>
    exact (Does.bind (.act _) fun _ => .bind (.act _) fun _ => .bind (underCounts_does l _) fun _ =>
      .bind (.locked rfl) fun _ => .pure _).congr rfl

theorem executeSlice_does (l : Lane) : (executeSlice l).Does [] (Crossroads.executeSlice l) :=
  (Does.bind (.act _) fun startMs => .bind (underCounts_does l _) (finishSlice_does l startMs)).congr rfl

theorem countResolved_does (tick : Nat) (resolved : Option EmergencyEvent) :
    (countResolved tick resolved).Does [] (Crossroads.countResolved tick resolved) := by
  cases resolved with
  | none => exact .pure _
  | some event => exact .bind (.locked rfl) fun _ => .pure _

theorem completeEmergency_does (l : Lane) : (completeEmergency l).Does [] (Crossroads.completeEmergency l) :=
  (Does.bind (.locked rfl) fun tick => .bind (.locked rfl) (countResolved_does tick)).congr rfl

end Routine
end Crossroads
