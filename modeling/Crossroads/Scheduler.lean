import Crossroads.Policy.Choice
import Crossroads.History
/-!
# The scheduler's own state

Its settings, what it remembers between passes, and the report of it.
-/
namespace Crossroads

structure Settings where
  /-- Slices a lane may hold the crossing under a policy that does not preempt. -/
  timeQuantum : Nat := 3
  contextSwitchMs : Nat := 500
  crossTimeMs : Nat := 3000
  batchSize : Nat := 3
  historyCapacity : Nat := 1000
  levels : Nat := 3
  /-- Ready ticks after which a lane rises to the top level. -/
  agingThreshold : Nat := 50
deriving DecidableEq

def Settings.policyParams (s : Settings) : PolicyParams where
  crossTimeSecs := Double.ofNat s.crossTimeMs / 1000.0
  timeQuantum := s.timeQuantum
  levels := s.levels
  agingThreshold := s.agingThreshold

structure Scheduler where
  policy : Policy
  /-- The lane that was last put into the crossing. -/
  current : Option Lane := none
  sliceCount : Nat := 0
  readyQueue : List Lane := []
  history : Ring SliceRecord
  contextSwitches : Nat := 0
  tick : Nat := 0
deriving DecidableEq

inductive Decision where
  | idle
  | keep (lane : Lane)
  | switch (source : Option Lane) (target : Lane) (emergency : Bool)
deriving DecidableEq

namespace Decision

def lane : Decision → Option Lane
  | idle         => none
  | keep l       => some l
  | switch _ l _ => some l

def isSwitch : Decision → Bool
  | switch _ _ _ => true
  | _            => false

end Decision

structure SchedulerSnapshot where
  policy : Policy
  current : Option Lane
  sliceCount : Nat
  readyQueue : List Lane
  contextSwitches : Nat
  tick : Nat
  recent : List SliceRecord
  windowThroughputPerMin : Float
deriving BEq

namespace Scheduler

def readyQueueCapacity : Nat := 20

def recentRecords : Nat := 10

def fresh (policy : Policy) (settings : Settings) : Scheduler :=
  { policy := policy, history := { capacity := settings.historyCapacity } }

def readyByArrival (s : SystemSnapshot) : List Lane :=
  ((s.ready.mergeSort (fun a b => a.fifoOrder b != .gt)).take readyQueueCapacity).map (·.lane)

def snapshot (s : Scheduler) : SchedulerSnapshot where
  policy := s.policy
  current := s.current
  sliceCount := s.sliceCount
  readyQueue := s.readyQueue
  contextSwitches := s.contextSwitches
  tick := s.tick
  recent := s.history.recent recentRecords
  windowThroughputPerMin := s.history.throughputPerMinute

end Scheduler

end Crossroads
