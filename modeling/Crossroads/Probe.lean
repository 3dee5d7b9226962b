import Crossroads.Status
/-!
# Reading under the emergency lock

While the pending emergencies are looked through, their lock is held.  Reading another part then takes that part's lock
on top, which is a breach of the order of layers for a part below.
-/
namespace Crossroads

open Act

inductive Probe where
  | schedulerTick
  | totalGenerated
  | northState
  | available
  | pendingCount
  | heldLayers
  | status
deriving DecidableEq

inductive Reading where
  | number (n : Nat)
  | state (s : LaneState)
  /-- The lock is held already. -/
  | busy
  | layers (ls : HeldLayers)
  | status (s : StatusSnapshot)

def readUnder (held : HeldLayers) (reader : StatusReader) : Probe → Act Reading
  | .schedulerTick => do
    checkLayer held .scheduler
    return .number (← get).scheduler.tick
  | .totalGenerated => do
    checkLayer held .metrics
    return .number (← get).metrics.totalGenerated
  | .northState => do
    checkLayer held .lane
    return .state ((← get).lanes.get .north).state
  | .available => do
    checkLayer held .allocator
    return .number (← get).allocator.available
  | .pendingCount => return .busy
  | .heldLayers => return .layers held
  | .status => do return .status (reader.poll { emergencies := true } (← get)).1

/-- Looks for the next emergency, reading something for each pending one on the way. -/
def peekReading (reader : StatusReader) (probe : Probe) : Act (Option EmergencyEvent × List Reading) := do
  let e := (← get).emergencies
  let readings ← e.pending.mapM (fun _ => readUnder [.emergency] reader probe)
  return (e.next, readings)

end Crossroads
