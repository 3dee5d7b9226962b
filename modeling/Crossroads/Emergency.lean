import Crossroads.Lane
import Crossroads.Least
/-!
# Emergencies

At most one emergency is pending per lane.  Raising another on the same lane coalesces with it: the first arrival
stays, and a heavier kind takes the place of a lighter one.
-/
namespace Crossroads

inductive EmergencyKind where
  | ambulance
  | fireTruck
  | police
deriving DecidableEq

namespace EmergencyKind

def weight : EmergencyKind → Nat
  | ambulance => 3
  | fireTruck => 2
  | police    => 1

def text : EmergencyKind → String
  | ambulance => "ambulance"
  | fireTruck => "fire truck"
  | police    => "police"

def name : EmergencyKind → String
  | ambulance => "ambulance"
  | fireTruck => "fire_truck"
  | police    => "police"

def all : List EmergencyKind := [ambulance, fireTruck, police]

def ofName? (s : String) : Option EmergencyKind := all.find? (fun k => k.name == s)

theorem ofName?_name (k : EmergencyKind) : ofName? k.name = some k := by cases k <;> rfl

end EmergencyKind

structure EmergencyEvent where
  lane : Lane
  arrivalTick : Nat
  priority : Nat
  kind : EmergencyKind
  resolved : Bool := false
deriving DecidableEq

/-- The order in which emergencies are served: the heavier first, then the earlier, then the lower lane. -/
def EmergencyEvent.order (a b : EmergencyEvent) : Ordering :=
  ((compare b.priority a.priority).then (compare a.arrivalTick b.arrivalTick)).then
    (compare a.lane.index b.lane.index)

/-- The pending emergencies, at most one per lane. -/
structure Emergencies where
  slots : PerLane (Option EmergencyEvent) := .replicate none
deriving DecidableEq

namespace Emergencies

def isPending (e : Emergencies) (l : Lane) : Bool := (e.slots.get l).isSome

def pending (e : Emergencies) : List EmergencyEvent := e.slots.toList.filterMap id

def count (e : Emergencies) : Nat := e.pending.length

def trigger (e : Emergencies) (l : Lane) (kind : EmergencyKind) (tick : Nat) : Bool × Emergencies :=
  match e.slots.get l with
  | some ev =>
    if ev.priority < kind.weight then
      (false, ⟨e.slots.set l (some { ev with priority := kind.weight, kind := kind })⟩)
    else (false, e)
  | none => (true, ⟨e.slots.set l (some { lane := l, arrivalTick := tick, priority := kind.weight, kind := kind })⟩)

def nextWhere (e : Emergencies) (eligible : Lane → Bool) : Option EmergencyEvent :=
  firstLeast? EmergencyEvent.order (e.pending.filter (fun ev => eligible ev.lane))

def next (e : Emergencies) : Option EmergencyEvent := e.nextWhere (fun _ => true)

/-- Takes the pending emergency of a lane, marked as resolved. -/
def resolve (e : Emergencies) (l : Lane) : Option EmergencyEvent × Emergencies :=
  match e.slots.get l with
  | none    => (none, e)
  | some ev => (some { ev with resolved := true }, ⟨e.slots.set l none⟩)

theorem isPending_trigger (e : Emergencies) (l m : Lane) (k : EmergencyKind) (t : Nat) :
    (e.trigger l k t).2.isPending m = (e.isPending m || m == l) := by
  unfold trigger isPending
  cases h : e.slots.get l with
  | none =>
    simp only [PerLane.get_set]
    by_cases hm : m = l <;> simp [hm]
  | some ev =>
    by_cases hp : ev.priority < k.weight
    · simp only [hp, if_true, PerLane.get_set]
      by_cases hm : m = l <;> simp [hm]
    · simp only [hp, if_false]
      by_cases hm : m = l <;> simp [hm, h]

theorem isPending_resolve (e : Emergencies) (l m : Lane) :
    (e.resolve l).2.isPending m = (e.isPending m && m != l) := by
  unfold resolve isPending
  cases h : e.slots.get l with
  | none => by_cases hm : m = l <;> simp [hm, h]
  | some ev =>
    simp only [PerLane.get_set]
    by_cases hm : m = l <;> simp [hm]

end Emergencies

end Crossroads
