import Crossroads.Vehicle
import Crossroads.Double
/-!
# Approaches

One lane as a process: its queue, its state, and what it has been through.  The cached queue length is kept in step
with the queue by the two operations that change the queue.
-/
namespace Crossroads

/-- The priority of a lane that was given none; smaller numbers are more urgent. -/
def normalPriority : Nat := 2

structure Approach where
  queue : VehicleQueue
  queueLength : Nat := 0
  state : LaneState := .waiting
  priority : Nat := normalPriority
  /-- Ticks spent ready since the lane last began to run. -/
  waitingTime : Nat := 0
  lastArrivalMs : Nat
  lastServiceMs : Option Nat := none
  totalArrivals : Nat := 0
  totalServed : Nat := 0
  totalWaitMs : Nat := 0
  slicesConsumed : Nat := 0
  requestedQuadrants : Nat := 0
  allocatedQuadrants : Nat := 0
deriving DecidableEq

structure LaneSnapshot where
  lane : Lane
  state : LaneState := .waiting
  queueLength : Nat := 0
  capacity : Nat := 0
  /-- When the vehicle at the head arrived, or the last arrival if there is none. -/
  arrivalMs : Nat := 0
  lastArrivalMs : Nat := 0
  lastServiceMs : Option Nat := none
  waitingTime : Nat := 0
  totalArrivals : Nat := 0
  totalServed : Nat := 0
  totalWaitMs : Nat := 0
  averageWaitSecs : Float := 0.0
  priority : Nat := normalPriority
  slicesConsumed : Nat := 0
  requestedQuadrants : Nat := 0
  allocatedQuadrants : Nat := 0
  hasEmergency : Bool := false
deriving BEq

namespace Approach

def fresh (capacity priority now : Nat) : Approach :=
  { queue := { capacity := capacity }, priority := priority, lastArrivalMs := now }

/-- Adds a vehicle; a waiting lane becomes ready. -/
def enqueue (a : Approach) (v : Vehicle) : Except TrafficError Approach := do
  let queue ← a.queue.enqueue v
  return { a with
    queue := queue
    queueLength := queue.length
    lastArrivalMs := v.arrivedMs
    totalArrivals := a.totalArrivals + 1
    state := if a.state = .waiting then .ready else a.state }

def dequeue (a : Approach) : Except TrafficError (Vehicle × Approach) := do
  let (v, queue) ← a.queue.dequeue
  return (v, { a with queue := queue, queueLength := queue.length })

def enter (a : Approach) (next : LaneState) : Approach :=
  { a with
    waitingTime := if next = .running ∧ a.state ≠ .running then 0 else a.waitingTime
    slicesConsumed := if next = .waiting ∧ a.queueLength = 0 then 0 else a.slicesConsumed
    state := next }

def transition (a : Approach) (l : Lane) (next : LaneState) : Except TrafficError Approach :=
  if a.state.permits next (a.queueLength == 0) then .ok (a.enter next)
  else .error (.invalidTransition l a.state next)

def forceRunning (a : Approach) : Approach :=
  if a.state = .running then a else { a with waitingTime := 0, state := .running }

/-- The state a lane falls back to when it gives up the crossing. -/
def yieldState (a : Approach) : LaneState := if 0 < a.queueLength then .ready else .waiting

/-- One turn of the lane's own loop: a waiting lane with vehicles becomes ready, a ready lane without becomes waiting,
and a lane that is ready then grows older. -/
def tick (a : Approach) (l : Lane) : Except TrafficError Approach := do
  let a ←
    if a.state = .waiting ∧ 0 < a.queueLength then a.transition l .ready
    else if a.state = .ready ∧ a.queueLength = 0 then a.transition l .waiting
    else .ok a
  return if a.state = .ready then { a with waitingTime := a.waitingTime + 1 } else a

def setQuadrants (a : Approach) (allocated requested : Nat) : Approach :=
  { a with allocatedQuadrants := allocated, requestedQuadrants := requested }

def blockOn (a : Approach) (requested : Nat) : Approach :=
  { a with requestedQuadrants := requested, state := .blocked }

/-- Lets a blocked lane go on; any other lane is left alone. -/
def unblock (a : Approach) (l : Lane) : Except TrafficError Approach :=
  if a.state = .blocked then
    let a := { a with requestedQuadrants := 0 }
    a.transition l a.yieldState
  else .ok a

def averageWaitSecs (a : Approach) : Float :=
  if a.totalServed = 0 then 0.0
  else Double.ofNat a.totalWaitMs / Double.ofNat a.totalServed / 1000.0

def headArrivalMs (a : Approach) : Nat := (a.queue.peek.map (·.arrivedMs)).getD a.lastArrivalMs

def snapshot (a : Approach) (l : Lane) : LaneSnapshot where
  lane := l
  state := a.state
  queueLength := a.queueLength
  capacity := a.queue.capacity
  arrivalMs := a.headArrivalMs
  lastArrivalMs := a.lastArrivalMs
  lastServiceMs := a.lastServiceMs
  waitingTime := a.waitingTime
  totalArrivals := a.totalArrivals
  totalServed := a.totalServed
  totalWaitMs := a.totalWaitMs
  averageWaitSecs := a.averageWaitSecs
  priority := a.priority
  slicesConsumed := a.slicesConsumed
  requestedQuadrants := a.requestedQuadrants
  allocatedQuadrants := a.allocatedQuadrants
  hasEmergency := a.queue.hasEmergency

/-! ## Laws -/

variable {a b : Approach} {v : Vehicle} {e : TrafficError}

def letIn (a : Approach) (v : Vehicle) : Approach :=
  { a with
    queue := { a.queue with vehicles := a.queue.vehicles ++ [v] }
    queueLength := a.queue.length + 1
    lastArrivalMs := v.arrivedMs
    totalArrivals := a.totalArrivals + 1
    state := if a.state = .waiting then .ready else a.state }

def withQueue (a : Approach) (vs : List Vehicle) : Approach :=
  { a with queue := { a.queue with vehicles := vs }, queueLength := vs.length }

theorem enqueue_of_room (h : a.queue.length < a.queue.capacity) (v : Vehicle) : a.enqueue v = .ok (a.letIn v) := by
  have hq : a.queue.enqueue v = .ok { a.queue with vehicles := a.queue.vehicles ++ [v] } :=
    VehicleQueue.enqueue_eq_ok_iff.2 ⟨h, rfl⟩
  have hlen : (a.queue.vehicles ++ [v]).length = a.queue.length + 1 := List.length_append
  rw [enqueue, hq, letIn, ← hlen]
  rfl

theorem enqueue_of_full (h : a.queue.capacity ≤ a.queue.length) (v : Vehicle) :
    a.enqueue v = .error (.queueFull a.queue.capacity) := by
  rw [enqueue, VehicleQueue.enqueue_eq_error_iff.2 ⟨h, rfl⟩]
  rfl

theorem enqueue_eq_ok_iff : a.enqueue v = .ok b ↔ a.queue.length < a.queue.capacity ∧ b = a.letIn v := by
  rcases Nat.lt_or_ge a.queue.length a.queue.capacity with h | h
  · rw [enqueue_of_room h, Except.ok.injEq, eq_comm]
    exact (and_iff_right h).symm
  · rw [enqueue_of_full h]
    exact ⟨nofun, fun hroom => absurd hroom.1 (Nat.not_lt.2 h)⟩

theorem enqueue_eq_error_iff :
    a.enqueue v = .error e ↔ a.queue.capacity ≤ a.queue.length ∧ e = .queueFull a.queue.capacity := by
  rcases Nat.lt_or_ge a.queue.length a.queue.capacity with h | h
  · rw [enqueue_of_room h]
    exact ⟨nofun, fun hfull => absurd hfull.1 (Nat.not_le.2 h)⟩
  · rw [enqueue_of_full h, Except.error.injEq, eq_comm]
    exact (and_iff_right h).symm

theorem dequeue_of_nil (h : a.queue.vehicles = []) : a.dequeue = .error .queueEmpty := by
  simp only [dequeue, VehicleQueue.dequeue, h]
  rfl

theorem dequeue_of_cons {vs : List Vehicle} (h : a.queue.vehicles = v :: vs) : a.dequeue = .ok (v, a.withQueue vs) := by
  simp only [dequeue, VehicleQueue.dequeue, h]
  rfl

theorem dequeue_eq_ok_iff :
    a.dequeue = .ok (v, b) ↔ ∃ vs, a.queue.vehicles = v :: vs ∧ b = a.withQueue vs := by
  cases hq : a.queue.vehicles with
  | nil =>
    rw [dequeue_of_nil hq]
    exact ⟨nofun, nofun⟩
  | cons w ws =>
    rw [dequeue_of_cons hq]
    constructor
    · rintro ⟨⟩
      exact ⟨ws, rfl, rfl⟩
    · rintro ⟨vs, ⟨⟩, rfl⟩
      rfl

theorem dequeue_eq_error_iff : a.dequeue = .error e ↔ a.queue.vehicles = [] ∧ e = .queueEmpty := by
  cases hq : a.queue.vehicles with
  | nil =>
    rw [dequeue_of_nil hq, Except.error.injEq, eq_comm]
    exact ⟨fun h => ⟨rfl, h⟩, fun h => h.2⟩
  | cons w ws =>
    rw [dequeue_of_cons hq]
    exact ⟨nofun, nofun⟩

theorem yieldState_ne_running (a : Approach) : a.yieldState ≠ .running := by
  rw [yieldState]
  split <;> exact nofun

theorem transition_yield {a : Approach} (l : Lane) (h : a.state = .running ∨ a.state = .blocked) :
    a.transition l a.yieldState = .ok (a.enter a.yieldState) := by
  unfold transition yieldState
  by_cases hq : 0 < a.queueLength
  · have h0 : (a.queueLength == 0) = false := by simp; omega
    rcases h with h | h <;> simp [hq, h0, h, LaneState.permits]
  · have h0 : a.queueLength = 0 := by omega
    rcases h with h | h <;> simp [h0, h, LaneState.permits]

@[simp] theorem enter_queue (a : Approach) (s : LaneState) : (a.enter s).queue = a.queue := rfl

@[simp] theorem enter_queueLength (a : Approach) (s : LaneState) : (a.enter s).queueLength = a.queueLength := rfl

@[simp] theorem enter_state (a : Approach) (s : LaneState) : (a.enter s).state = s := rfl

/-- The lane in the state that its own loop gives it: ready with vehicles, waiting without. -/
def turned (a : Approach) : Approach :=
  if a.state = .waiting ∧ 0 < a.queueLength then a.enter .ready
  else if a.state = .ready ∧ a.queueLength = 0 then a.enter .waiting
  else a

def aged (a : Approach) : Approach := if a.state = .ready then { a with waitingTime := a.waitingTime + 1 } else a

@[simp] theorem aged_state (a : Approach) : a.aged.state = a.state := by
  unfold aged
  split <;> rfl

/-- **A lane's own turn is never refused.** -/
theorem tick_eq (a : Approach) (l : Lane) : a.tick l = .ok a.turned.aged := by
  unfold tick turned
  by_cases hready : a.state = .waiting ∧ 0 < a.queueLength
  · have hpermits : a.state.permits .ready (a.queueLength == 0) = true := by
      rw [hready.1, beq_false_of_ne (Nat.ne_of_gt hready.2)]
      rfl
    rw [if_pos hready, if_pos hready, transition, if_pos hpermits]
    rfl
  · rw [if_neg hready, if_neg hready]
    by_cases hwaiting : a.state = .ready ∧ a.queueLength = 0
    · have hpermits : a.state.permits .waiting (a.queueLength == 0) = true := by
        rw [hwaiting.1, hwaiting.2]
        rfl
      rw [if_pos hwaiting, if_pos hwaiting, transition, if_pos hpermits]
      rfl
    · rw [if_neg hwaiting, if_neg hwaiting]
      rfl

end Approach

end Crossroads
