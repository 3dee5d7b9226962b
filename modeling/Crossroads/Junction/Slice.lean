import Crossroads.Junction.Switch
/-!
# Time slices

A running lane clears up to one batch of vehicles, the batch takes one crossing time, and the slice is recorded.  The
slice consists of four parts, each of which touches the junction at once: opening, crossing, closing, and recording.
-/
namespace Crossroads

open Act

/-- Serves up to `n` vehicles of a lane from the head of its queue, counting each with its wait; answers how many. -/
def serveBatch (l : Lane) (startMs : Nat) : Nat → Approach → Metrics → Nat × Approach × Metrics
  | 0, a, m => (0, a, m)
  | n + 1, a, m =>
    match a.dequeue with
    | .error _ => (0, a, m)
    | .ok (v, a) =>
      let waitMs := elapsedMs v.arrivedMs startMs
      let (k, a, m) := serveBatch l startMs n
        { a with totalServed := a.totalServed + 1, totalWaitMs := a.totalWaitMs + waitMs } (m.recordServed l waitMs)
      (k + 1, a, m)

/-- Opens a slice: serves a batch of a running lane and answers its size; nothing happens to a lane that does not
run. -/
def openSlice (l : Lane) (startMs : Nat) : Act (Option Nat) := do
  let j ← get
  if (j.lanes.get l).state = .running then
    let (served, a, m) := serveBatch l startMs j.settings.batchSize (j.lanes.get l) j.metrics
    let a := { a with
      lastServiceMs := if 0 < served then some startMs else a.lastServiceMs
      slicesConsumed := a.slicesConsumed + 1 }
    modify (fun j => { j with lanes := j.lanes.set l a, metrics := m })
    return some served
  else return none

def crossBatch (served : Nat) : Act Unit := do
  if 0 < served then discard (sleep (← get).settings.crossTimeMs)

/-- Closes a slice: a lane that has drained waits, and the time is counted as busy. -/
def closeSlice (l : Lane) (startMs endMs : Nat) : Act Unit := do
  let a := (← get).lanes.get l
  if a.state = .running ∧ a.queueLength = 0 then tryOnLane l (fun a => a.transition l .waiting)
  onMetrics (fun m => m.recordBusy (elapsedMs startMs endMs))

/-- Records a slice; it counts towards the quantum of the current lane. -/
def recordSlice (r : SliceRecord) : Act Unit :=
  onScheduler (fun s =>
    { s with
      history := (s.history.push r).2
      sliceCount := if s.current = some r.lane then s.sliceCount + 1 else s.sliceCount })

def finishSlice (l : Lane) (startMs : Nat) : Option Nat → Act (Option SliceRecord)
  | none => return none
  | some served => do
    crossBatch served
    let endMs := (← get).clock
    closeSlice l startMs endMs
    let record : SliceRecord := { lane := l, startMs := startMs, endMs := endMs, vehicles := served }
    recordSlice record
    return some record

def executeSlice (l : Lane) : Act (Option SliceRecord) := do
  let startMs := (← get).clock
  let opened ← openSlice l startMs
  finishSlice l startMs opened

def countResolved (tick : Nat) : Option EmergencyEvent → Act (Option EmergencyEvent)
  | none => return none
  | some event => do
    onMetrics (fun m => m.recordEmergencyHandled (tick - event.arrivalTick))
    return some event

def completeEmergency (l : Lane) : Act (Option EmergencyEvent) := do
  let tick := (← get).scheduler.tick
  let resolved ← onEmergencies (fun e => e.resolve l)
  countResolved tick resolved

end Crossroads
