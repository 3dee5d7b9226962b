import Crossroads.Policy
import Crossroads.Approach
import Crossroads.Least
/-!
# How a policy chooses

Every policy chooses the least ready lane under an order of its own: an estimated cost, a feedback level, or a
priority, ties going to the lane whose head vehicle arrived first and then to the lower lane.  Shortest remaining time
first keeps a running lane that would be done no later.
-/
namespace Crossroads

structure SystemSnapshot where
  lanes : PerLane LaneSnapshot
  current : Option Lane := none
  tick : Nat := 0

namespace SystemSnapshot

def ready (s : SystemSnapshot) : List LaneSnapshot := s.lanes.toList.filter (fun l => l.state = .ready)

def running (s : SystemSnapshot) : List LaneSnapshot := s.lanes.toList.filter (fun l => l.state = .running)

def firstRunning (s : SystemSnapshot) : Option LaneSnapshot := s.running.head?

end SystemSnapshot

namespace LaneSnapshot

def fifoOrder (a b : LaneSnapshot) : Ordering :=
  (compare a.arrivalMs b.arrivalMs).then (compare a.lane.index b.lane.index)

/-- The order of two service times; a lane that was never served comes first. -/
def compareService : Option Nat → Option Nat → Ordering
  | none, none     => .eq
  | none, some _   => .lt
  | some _, none   => .gt
  | some a, some b => compare a b

def turnOrder (a b : LaneSnapshot) : Ordering :=
  (compareService a.lastServiceMs b.lastServiceMs).then (fifoOrder a b)

theorem compareService_eq_compare : compareService = compare := by
  funext a b
  cases a <;> cases b <;> rfl

instance : Std.TransCmp fifoOrder :=
  inferInstanceAs (Std.TransCmp (compareLex (compareOn arrivalMs) (compareOn fun s => s.lane.index)))

instance : Std.TransCmp turnOrder := by
  have hturn : turnOrder = compareLex (compareOn lastServiceMs) fifoOrder := by
    funext a b
    rw [turnOrder, compareService_eq_compare]
    rfl
  rw [hturn]
  infer_instance

end LaneSnapshot

namespace Policy

/-! ## Costs, in seconds -/

def processingTime (crossTimeSecs : Float) (l : LaneSnapshot) : Float := Double.ofNat l.queueLength * crossTimeSecs

def agingCost (crossTimeSecs : Float) (l : LaneSnapshot) : Float :=
  processingTime crossTimeSecs l - Double.ofNat l.waitingTime * 0.1

def weightedCost (crossTimeSecs : Float) (l : LaneSnapshot) : Float :=
  processingTime crossTimeSecs l - Double.ofNat l.waitingTime * 0.2 + l.averageWaitSecs * 0.1

/-- The queue length times a minute shared among the vehicles served so far, or times the crossing time if there are
none. -/
def predictiveCost (crossTimeSecs : Float) (l : LaneSnapshot) : Float :=
  let perVehicle := if 0 < l.totalServed then 60.0 / Double.ofNat l.totalServed else crossTimeSecs
  Double.ofNat l.queueLength * perVehicle

def costOrder (cost : LaneSnapshot → Float) (a b : LaneSnapshot) : Ordering :=
  (Double.compare (cost a) (cost b)).then (a.fifoOrder b)

/-! ## Levels and priorities -/

/-- The feedback level of a lane: it sinks with the slices it has used, down to the last level, and a long wait lifts
it to the top.  There is always at least one level, and a quantum of at least one. -/
def level (params : PolicyParams) (l : LaneSnapshot) : Nat :=
  if params.agingThreshold ≤ l.waitingTime then 0
  else min (l.slicesConsumed / max params.timeQuantum 1) (max params.levels 1 - 1)

def levelOrder (params : PolicyParams) (a b : LaneSnapshot) : Ordering :=
  (compare (level params a) (level params b)).then (a.turnOrder b)

def priorityOrder (a b : LaneSnapshot) : Ordering := (compare a.priority b.priority).then (a.turnOrder b)

instance : Std.TransCmp priorityOrder :=
  inferInstanceAs (Std.TransCmp (compareLex (compareOn LaneSnapshot.priority) LaneSnapshot.turnOrder))

def order (p : Policy) (params : PolicyParams) : LaneSnapshot → LaneSnapshot → Ordering :=
  match p with
  | sjf | srtf         => costOrder (processingTime params.crossTimeSecs)
  | agingSjf           => costOrder (agingCost params.crossTimeSecs)
  | weightedSjf        => costOrder (weightedCost params.crossTimeSecs)
  | predictiveSjf      => costOrder (predictiveCost params.crossTimeSecs)
  | multilevelFeedback => levelOrder params
  | priorityRoundRobin => priorityOrder

/-! ## Choosing -/

def leastReady (p : Policy) (params : PolicyParams) (s : SystemSnapshot) : Option LaneSnapshot :=
  firstLeast? (p.order params) s.ready

/-- Whether a running lane keeps the crossing from another one under a preemptive policy: it does if it would be done
no later. -/
def keepsRunning (params : PolicyParams) (running best : LaneSnapshot) : Bool :=
  processingTime params.crossTimeSecs running ≤ processingTime params.crossTimeSecs best

def choose (p : Policy) (params : PolicyParams) (s : SystemSnapshot) : Option Lane :=
  match p.leastReady params s with
  | none => none
  | some best =>
    match s.firstRunning with
    | some running => if p.isPreemptive && keepsRunning params running best then none else some best.lane
    | none => some best.lane

theorem level_lt (params : PolicyParams) (l : LaneSnapshot) : level params l < max params.levels 1 := by
  unfold level
  split
  · omega
  · omega

theorem choose_of_not_preemptive {p : Policy} (h : p.isPreemptive = false) (params : PolicyParams) (s : SystemSnapshot) :
    p.choose params s = (p.leastReady params s).map (·.lane) := by
  unfold choose
  cases p.leastReady params s with
  | none => rfl
  | some best => cases s.firstRunning <;> simp [h]

end Policy

end Crossroads
