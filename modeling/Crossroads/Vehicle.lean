import Crossroads.Fault
/-!
# Vehicles and their queue

A lane's vehicles stand in a first-in first-out queue of bounded capacity.
-/
namespace Crossroads

structure Vehicle where
  id : Nat
  arrivedMs : Nat
  emergency : Bool := false
deriving DecidableEq

/-- The vehicles queued on one lane, head first. -/
structure VehicleQueue where
  capacity : Nat
  vehicles : List Vehicle := []
deriving DecidableEq

namespace VehicleQueue

def length (q : VehicleQueue) : Nat := q.vehicles.length

def isEmpty (q : VehicleQueue) : Bool := q.vehicles.isEmpty

def isFull (q : VehicleQueue) : Bool := q.capacity ≤ q.length

def peek (q : VehicleQueue) : Option Vehicle := q.vehicles.head?

def hasEmergency (q : VehicleQueue) : Bool := q.vehicles.any (·.emergency)

def enqueue (q : VehicleQueue) (v : Vehicle) : Except TrafficError VehicleQueue :=
  if q.isFull then .error (.queueFull q.capacity) else .ok { q with vehicles := q.vehicles ++ [v] }

def dequeue (q : VehicleQueue) : Except TrafficError (Vehicle × VehicleQueue) :=
  match q.vehicles with
  | []      => .error .queueEmpty
  | v :: vs => .ok (v, { q with vehicles := vs })

theorem enqueue_eq_ok_iff {q q' : VehicleQueue} {v : Vehicle} :
    q.enqueue v = .ok q' ↔ q.length < q.capacity ∧ q' = { q with vehicles := q.vehicles ++ [v] } := by
  unfold enqueue isFull
  by_cases h : q.capacity ≤ q.length
  · simp [h, Nat.not_lt.2 h]
  · simp [h, Nat.lt_of_not_le h, eq_comm]

theorem enqueue_eq_error_iff {q : VehicleQueue} {v : Vehicle} {e : TrafficError} :
    q.enqueue v = .error e ↔ q.capacity ≤ q.length ∧ e = .queueFull q.capacity := by
  unfold enqueue isFull
  by_cases h : q.capacity ≤ q.length <;> simp [h, eq_comm]

theorem dequeue_eq_ok_iff {q q' : VehicleQueue} {v : Vehicle} :
    q.dequeue = .ok (v, q') ↔ q.vehicles = v :: q'.vehicles ∧ q'.capacity = q.capacity := by
  cases q with
  | mk cap vs =>
    cases vs with
    | nil => simp [dequeue]
    | cons w ws =>
      cases q' with
      | mk cap' vs' =>
        simp only [dequeue, Except.ok.injEq, Prod.mk.injEq, mk.injEq, List.cons.injEq]
        constructor
        · rintro ⟨h1, h2, h3⟩
          exact ⟨⟨h1, h3⟩, h2.symm⟩
        · rintro ⟨⟨h1, h3⟩, h2⟩
          exact ⟨h1, h2.symm, h3⟩

end VehicleQueue

end Crossroads
