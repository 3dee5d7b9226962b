import Crossroads.Lane
import Crossroads.Double
/-!
# Metrics

The counters of a whole run, and what a report derives from them: rates, means, and how evenly the lanes were served.
-/
namespace Crossroads

/-- The time from one moment to another; a clock that went back counts as no time. -/
def elapsedMs (earlierMs laterMs : Nat) : Nat := laterMs - earlierMs

structure Metrics where
  startedMs : Nat
  totalProcessed : Nat := 0
  totalGenerated : Nat := 0
  laneThroughput : PerLane Nat := .replicate 0
  laneWaitMs : PerLane Nat := .replicate 0
  contextSwitches : Nat := 0
  switchOverheadMs : Nat := 0
  deadlocksPrevented : Nat := 0
  deadlocksResolved : Nat := 0
  queueOverflows : Nat := 0
  emergenciesHandled : Nat := 0
  emergencyResponseTicks : Nat := 0
  busyMs : Nat := 0
deriving DecidableEq

/-- Jain's fairness index of some shares: the square of their sum over their number times the sum of their squares.
It is one where nothing was served. -/
def jainFairness (values : List Nat) : Float :=
  let sums := values.foldl
    (fun (acc : Float × Float) v => (acc.1 + Double.ofNat v, acc.2 + Double.ofNat v * Double.ofNat v)) (0.0, 0.0)
  if sums.2 == 0.0 || values.isEmpty then 1.0
  else (sums.1 * sums.1) / (Double.ofNat values.length * sums.2)

structure MetricsSnapshot where
  elapsedMs : Nat
  totalProcessed : Nat
  totalGenerated : Nat
  laneThroughput : PerLane Nat
  laneWaitMs : PerLane Nat
  contextSwitches : Nat
  switchOverheadMs : Nat
  deadlocksPrevented : Nat
  deadlocksResolved : Nat
  queueOverflows : Nat
  emergenciesHandled : Nat
  averageEmergencyResponseTicks : Float
  busyMs : Nat
  vehiclesPerMinute : Float
  averageWaitSecs : Float
  utilization : Float
  fairnessIndex : Float
deriving BEq

namespace Metrics

def recordServed (m : Metrics) (l : Lane) (waitMs : Nat) : Metrics :=
  { m with totalProcessed := m.totalProcessed + 1,
           laneThroughput := m.laneThroughput.modify l (· + 1),
           laneWaitMs := m.laneWaitMs.modify l (· + waitMs) }

def recordBusy (m : Metrics) (ms : Nat) : Metrics := { m with busyMs := m.busyMs + ms }

def recordContextSwitch (m : Metrics) (overheadMs : Nat) : Metrics :=
  { m with contextSwitches := m.contextSwitches + 1, switchOverheadMs := m.switchOverheadMs + overheadMs }

def recordGenerated (m : Metrics) : Metrics := { m with totalGenerated := m.totalGenerated + 1 }

def recordOverflow (m : Metrics) : Metrics := { m with queueOverflows := m.queueOverflows + 1 }

def recordDenial (m : Metrics) : Metrics := { m with deadlocksPrevented := m.deadlocksPrevented + 1 }

def recordDeadlockResolved (m : Metrics) : Metrics := { m with deadlocksResolved := m.deadlocksResolved + 1 }

def recordEmergencyHandled (m : Metrics) (ticks : Nat) : Metrics :=
  { m with emergenciesHandled := m.emergenciesHandled + 1,
           emergencyResponseTicks := m.emergencyResponseTicks + ticks }

def elapsedMs (m : Metrics) (now : Nat) : Nat := Crossroads.elapsedMs m.startedMs now

def vehiclesPerMinute (m : Metrics) (now : Nat) : Float :=
  let minutes := Double.ofNat (m.elapsedMs now) / 60000.0
  if minutes > 0.0 then Double.ofNat m.totalProcessed / minutes else 0.0

def averageWaitSecs (m : Metrics) : Float :=
  if m.totalProcessed = 0 then 0.0
  else Double.ofNat m.laneWaitMs.sum / Double.ofNat m.totalProcessed / 1000.0

def utilization (m : Metrics) (now : Nat) : Float :=
  let elapsed := m.elapsedMs now
  if elapsed = 0 then 0.0
  else
    let share := Double.ofNat m.busyMs / Double.ofNat elapsed
    if share < 0.0 then 0.0 else if share > 1.0 then 1.0 else share

def averageResponseTicks (m : Metrics) : Float :=
  if m.emergenciesHandled = 0 then 0.0
  else Double.ofNat m.emergencyResponseTicks / Double.ofNat m.emergenciesHandled

def snapshot (m : Metrics) (now : Nat) : MetricsSnapshot where
  elapsedMs := m.elapsedMs now
  totalProcessed := m.totalProcessed
  totalGenerated := m.totalGenerated
  laneThroughput := m.laneThroughput
  laneWaitMs := m.laneWaitMs
  contextSwitches := m.contextSwitches
  switchOverheadMs := m.switchOverheadMs
  deadlocksPrevented := m.deadlocksPrevented
  deadlocksResolved := m.deadlocksResolved
  queueOverflows := m.queueOverflows
  emergenciesHandled := m.emergenciesHandled
  averageEmergencyResponseTicks := m.averageResponseTicks
  busyMs := m.busyMs
  vehiclesPerMinute := m.vehiclesPerMinute now
  averageWaitSecs := m.averageWaitSecs
  utilization := m.utilization now
  fairnessIndex := jainFairness m.laneThroughput.toList

end Metrics

end Crossroads
