import Crossroads.Scheduler
import Crossroads.WaitFor.Victim
/-!
# Configuration

Everything a simulation is set up with.  `Config.normalized` puts each value that is out of range back into it, and
`Config.validate` names the first rule that a configuration breaks.
-/
namespace Crossroads

structure Config where
  durationSecs : Int := 300
  minArrivalSecs : Int := 3
  maxArrivalSecs : Int := 8
  timeQuantum : Int := 3
  initialPolicy : Policy := .sjf
  debug : Bool := false
  crossTimeMs : Nat := 3000
  contextSwitchMs : Nat := 500
  tickIntervalMs : Nat := 300
  laneTickMs : Nat := 100
  statusIntervalMs : Nat := 100
  queueCapacity : Nat := 20
  batchSize : Nat := 3
  historyCapacity : Nat := 1000
  deadlockCheckInterval : Nat := 100
  quadrantsPerCrossing : Nat := 2
  /-- One arrival in so many is an emergency; zero means none is. -/
  emergencyProbability : Nat := 100
  mlfqLevels : Nat := 3
  agingThreshold : Nat := 50
  victimStrategy : VictimStrategy := .smallestAllocation
  strictInvariants : Bool := false
  seed : Option Nat := none
deriving DecidableEq

inductive ConfigRule where
  | durationRange
  | arrivalPositive
  | arrivalOrder
  | quantumPositive
  | capacityPositive
  | batchPositive
  | intervalPositive
  | quadrantRange
  | levelsPositive
deriving DecidableEq

def ConfigRule.message : ConfigRule → String
  | durationRange    => "duration_secs must be within 10..=3600"
  | arrivalPositive  => "arrival bounds must be greater than 0"
  | arrivalOrder     => "min_arrival_secs must not exceed max_arrival_secs"
  | quantumPositive  => "time_quantum must be greater than 0"
  | capacityPositive => "queue_capacity must be greater than 0"
  | batchPositive    => "batch_size must be greater than 0"
  | intervalPositive => "deadlock_check_interval must be greater than 0"
  | quadrantRange    => "quadrants_per_crossing must be within 1..=4"
  | levelsPositive   => "mlfq_levels must be greater than 0"

namespace Config

def maxQuantum : Nat := 4294967295

/-- A duration of no time means five minutes; any other is held between ten seconds and an hour. -/
def clampDuration (secs : Int) : Int :=
  let secs := if secs ≤ 0 then 300 else secs
  if secs < 10 then 10 else if 3600 < secs then 3600 else secs

def orderArrivals (least most : Int) : Int × Int :=
  let least := if least ≤ 0 then 1 else least
  let most := if most ≤ 0 then 5 else most
  if most < least then (most, least) else (least, most)

/-- A quantum that is not positive means three slices; any other is held to what the scheduler can count to. -/
def clampQuantum (q : Int) : Int :=
  if q ≤ 0 then 3 else if maxQuantum < q then maxQuantum else q

def orDefault (value default : Nat) : Nat := if value = 0 then default else value

def normalized (c : Config) : Config :=
  { c with
    durationSecs := clampDuration c.durationSecs
    minArrivalSecs := (orderArrivals c.minArrivalSecs c.maxArrivalSecs).1
    maxArrivalSecs := (orderArrivals c.minArrivalSecs c.maxArrivalSecs).2
    timeQuantum := clampQuantum c.timeQuantum
    queueCapacity := orDefault c.queueCapacity 20
    batchSize := orDefault c.batchSize 3
    deadlockCheckInterval := orDefault c.deadlockCheckInterval 100
    quadrantsPerCrossing :=
      if c.quadrantsPerCrossing = 0 ∨ totalQuadrants < c.quadrantsPerCrossing then 2 else c.quadrantsPerCrossing
    mlfqLevels := orDefault c.mlfqLevels 3 }

def firstBroken (c : Config) : Option ConfigRule :=
  if c.durationSecs < 10 ∨ 3600 < c.durationSecs then some .durationRange
  else if c.minArrivalSecs ≤ 0 ∨ c.maxArrivalSecs ≤ 0 then some .arrivalPositive
  else if c.maxArrivalSecs < c.minArrivalSecs then some .arrivalOrder
  else if c.timeQuantum ≤ 0 then some .quantumPositive
  else if c.queueCapacity = 0 then some .capacityPositive
  else if c.batchSize = 0 then some .batchPositive
  else if c.deadlockCheckInterval = 0 then some .intervalPositive
  else if c.quadrantsPerCrossing = 0 ∨ totalQuadrants < c.quadrantsPerCrossing then some .quadrantRange
  else if c.mlfqLevels = 0 then some .levelsPositive
  else none

def validate (c : Config) : Except ConfigRule Unit :=
  match c.firstBroken with
  | none => .ok ()
  | some rule => .error rule

/-- How long a simulation runs, in seconds; no time where the number is negative. -/
def duration (c : Config) : Nat := c.durationSecs.toNat

/-- The quantum as the scheduler counts it; a number it cannot count to becomes the largest one. -/
def schedulerQuantum (q : Int) : Nat := if 0 ≤ q ∧ q ≤ maxQuantum then q.toNat else maxQuantum

def settings (c : Config) : Settings where
  timeQuantum := schedulerQuantum c.timeQuantum
  contextSwitchMs := c.contextSwitchMs
  crossTimeMs := c.crossTimeMs
  batchSize := c.batchSize
  historyCapacity := c.historyCapacity
  levels := c.mlfqLevels
  agingThreshold := c.agingThreshold

end Config

end Crossroads
