import Crossroads.Proofs.Traffic.Crossing
import Crossroads.Proofs.Exclusion.Runs
/-!
# Traffic along a run

Each operation of a simulation comes to one event of its traffic (`Operation.event`), which is read off the operation
and its answer, and the event alone says what becomes of the traffic (`Operation.traffic_next`).  What is to hold of
the traffic in every run is proved of the events, one by one.
-/
namespace Crossroads

open Act

variable {j : Junction} {l m : Lane} {op : Operation}

def LaneTraffic.letIn (t : LaneTraffic) (v : Vehicle) : LaneTraffic where
  queue := { t.queue with vehicles := t.queue.vehicles ++ [v] }
  queueLength := t.queue.length + 1
  totalArrivals := t.totalArrivals + 1
  totalServed := t.totalServed

theorem Approach.traffic_letIn (a : Approach) (v : Vehicle) : (a.letIn v).traffic = a.traffic.letIn v := rfl

/-- The emergencies after a vehicle was let in. -/
def Emergencies.triggerArrived (e : Emergencies) (l : Lane) (tick : Nat) : Option EmergencyKind → Emergencies
  | none => e
  | some kind => (e.trigger l kind tick).2

theorem Emergencies.triggerArrived_of {P : Emergencies → Prop} {e : Emergencies} {l : Lane} {tick : Nat} (h : P e)
    (ht : ∀ kind, P (e.trigger l kind tick).2) : ∀ emergency, P (e.triggerArrived l tick emergency)
  | none => h
  | some kind => ht kind

namespace Traffic

inductive Event where
  | idle
  | turnedAway
  | admitted (l : Lane) (v : Vehicle) (emergency : Option EmergencyKind)
  | called (l : Lane) (kind : EmergencyKind)
  | stepped (record : Option SliceRecord)

def Event.record : Event → Option SliceRecord
  | .stepped record => record
  | _ => none

def number (t : Traffic) : Traffic :=
  { t with nextVehicle := t.nextVehicle + 1, tally := { t.tally with generated := t.tally.generated + 1 } }

def turnAway (t : Traffic) : Traffic := { t with tally := { t.tally with overflows := t.tally.overflows + 1 } }

def letIn (t : Traffic) (l : Lane) (v : Vehicle) : Traffic := { t with lanes := t.lanes.modify l (·.letIn v) }

def call (t : Traffic) (l : Lane) (kind : EmergencyKind) : Traffic :=
  { t with emergencies := (t.emergencies.trigger l kind t.passes).2 }

def callArrived (t : Traffic) (l : Lane) (emergency : Option EmergencyKind) : Traffic :=
  { t with emergencies := t.emergencies.triggerArrived l t.passes emergency }

def after (t : Traffic) : Event → Traffic
  | .idle => t
  | .turnedAway => t.number.turnAway
  | .admitted l v emergency => (t.number.letIn l v).callArrived l emergency
  | .called l kind => t.call l kind
  | .stepped record => t.pass.crossing record

theorem Event.eq_stepped_of_record {e : Event} {r : SliceRecord} (h : e.record = some r) : e = .stepped (some r) := by
  cases e with
  | stepped record => exact congrArg Event.stepped h
  | _ => cases h

/-- What can be said of an event beforehand: an admitted vehicle has the next number, and a batch has its size. -/
def Allows (t : Traffic) : Event → Prop
  | .admitted _ v emergency => v.id = t.nextVehicle ∧ v.emergency = emergency.isSome
  | .stepped record => t.Batch record
  | _ => True

end Traffic

def Junction.incoming (j : Junction) (emergency : Option EmergencyKind) : Vehicle where
  id := j.nextVehicle
  arrivedMs := j.clock
  emergency := emergency.isSome

def StepOutcome.event : StepOutcome → Traffic.Event
  | .paused => .idle
  | .ran _ record _ _ => .stepped record

namespace Operation

/-- What a simulation does with a junction: everything but moving vehicles, setting states or counters and taking the
parts of a step by hand. -/
def Regular : Operation → Prop
  | advance _ | setClock _ | sleep _ | tickLane _ | setPolicy _ | request _ _ | retry _ | release _ | sweep | requestStop
  | arrive _ _ | step | pause | resume | emergency _ _ | revalidate | command _ => True
  | _ => False

/-- The event that a regular operation comes to. -/
def event (op : Operation) (j : Junction) : Traffic.Event :=
  match op with
  | arrive l kind =>
    match (op.runOn j).1 with
    | .ok _ => .admitted l (j.incoming kind) kind
    | .error _ => .turnedAway
  | emergency l kind => .called l kind
  | command (.triggerEmergency lane kind) =>
    match Lane.ofIndex? lane with
    | some l => .called l kind
    | none => .idle
  | step =>
    match (op.runOn j).1 with
    | .ok (.outcome outcome) => outcome.event
    | _ => .idle
  | _ => .idle

def record (op : Operation) (j : Junction) : Option SliceRecord := (op.event j).record

theorem Regular.ne_setState (h : op.Regular) (l : Lane) (s : LaneState) : op ≠ .setState l s := by
  rintro rfl
  exact h

end Operation

/-! ## Arrivals -/

theorem runOn_offerVehicle (l : Lane) (v : Vehicle) (j : Junction) :
    (offerVehicle l v).runOn j = match (j.lanes.get l).enqueue v with
      | .error e => (.ok (.error e), j)
      | .ok a => (.ok (.ok ()), { j with lanes := j.lanes.set l a }) := by
  unfold offerVehicle
  rw [runOn_bind_of_ok (runOn_get j)]
  cases (j.lanes.get l).enqueue v with
  | error e => rfl
  | ok a => rfl

theorem runOn_raiseArrived (l : Lane) (emergency : Option EmergencyKind) (j : Junction) :
    (raiseArrived l emergency).runOn j =
      (.ok (), { j with emergencies := j.emergencies.triggerArrived l j.scheduler.tick emergency }) := by
  cases emergency <;> rfl

/-- **What an arrival comes to.** -/
theorem runOn_generateArrival (l : Lane) (emergency : Option EmergencyKind) (j : Junction) :
    (generateArrival l emergency).runOn j = match (j.lanes.get l).enqueue (j.incoming emergency) with
      | .error e => (.error (.refused e), { j with
          nextVehicle := j.nextVehicle + 1
          metrics := j.metrics.recordGenerated.recordOverflow })
      | .ok a => (.ok j.nextVehicle, { j with
          nextVehicle := j.nextVehicle + 1
          metrics := j.metrics.recordGenerated
          lanes := j.lanes.set l a
          emergencies := j.emergencies.triggerArrived l j.scheduler.tick emergency }) := by
  let j₁ : Junction := { j with nextVehicle := j.nextVehicle + 1, metrics := j.metrics.recordGenerated }
  show (offerVehicle l (j.incoming emergency) >>= settleArrival l emergency j.nextVehicle).runOn j₁ = _
  have hoffer := runOn_offerVehicle l (j.incoming emergency) j₁
  have hlane : j₁.lanes.get l = j.lanes.get l := rfl
  rw [hlane] at hoffer
  cases hq : (j.lanes.get l).enqueue (j.incoming emergency) with
  | error e =>
    rw [hq] at hoffer
    rw [runOn_bind_of_ok hoffer]
    rfl
  | ok a =>
    rw [hq] at hoffer
    rw [runOn_bind_of_ok hoffer, settleArrival, runOn_bind_of_ok (runOn_raiseArrived _ _ _)]
    rfl

/-! ## Operations -/

namespace Operation

theorem next_perform (op : Operation) (j : Junction) : op.next j = (op.perform.runOn j).2 := rfl

theorem runOn_then_pure {α : Type} (a : Act α) (g : α → Reply) (j : Junction) :
    (a >>= fun x => pure (g x)).runOn j = ((a.runOn j).1.map g, (a.runOn j).2) := by
  rw [runOn_bind]
  rcases a.runOn j with ⟨f | x, i⟩ <;> rfl

theorem runOn_ofExcept_then {α β : Type} (r : Except TrafficError α) (g : α → β) (j : Junction) :
    ((ofExcept r >>= fun x => pure (g x)).runOn j).2 = j := by
  cases r <;> rfl

theorem next_arrive (l : Lane) (kind : Option EmergencyKind) (j : Junction) :
    j.traffic.Allows ((arrive l kind).event j) ∧
      ((arrive l kind).next j).traffic = j.traffic.after ((arrive l kind).event j) := by
  have hrun := runOn_generateArrival l kind j
  have hperform : (arrive l kind).runOn j =
      (((generateArrival l kind).runOn j).1.map .number, ((generateArrival l kind).runOn j).2) :=
    runOn_then_pure _ _ _
  rw [next, event, hperform, hrun]
  cases hq : (j.lanes.get l).enqueue (j.incoming kind) with
  | error e => exact ⟨trivial, rfl⟩
  | ok a =>
    refine ⟨⟨rfl, rfl⟩, ?_⟩
    show ({ j.traffic.number with
      lanes := (j.lanes.set l a).map Approach.traffic
      emergencies := j.emergencies.triggerArrived l j.scheduler.tick kind } : Traffic) = Traffic.callArrived _ l kind
    obtain ⟨-, rfl⟩ := Approach.enqueue_eq_ok_iff.1 hq
    rw [PerLane.map_set, Approach.traffic_letIn, ← Junction.traffic_lanes_get]
    rfl

/-- At a junction in order, what can fail only with a breach does not fail. -/
theorem runOn_of_orderly {α : Type} {a : Act α} {answer : α → Reply} (op : Operation) (ha : a.Orderly)
    (hop : op.perform = a >>= fun x => pure (answer x)) (hset : ∀ l s, op ≠ .setState l s) (he : j.Exclusive)
    (hl : j.Linked) : ∃ x i, a.runOn j = (.ok x, i) ∧ op.runOn j = (.ok (answer x), i) := by
  -- the action fails only with a breach, and the operation, which fails when it does, never fails with one
  have hrun : op.runOn j = ((a.runOn j).1.map answer, (a.runOn j).2) := by
    rw [runOn, hop, runOn_then_pure]
  obtain ⟨-, -, hbreach⟩ := keepsOrder hset he hl
  rcases ha' : a.runOn j with ⟨f | x, i⟩
  · have hbreaks : f.isBreach = true := ha.firm j f (congrArg Prod.fst ha')
    have hno : f.isBreach = false := hbreach f (by rw [hrun, ha']; rfl)
    rw [hbreaks] at hno
    cases hno
  · rw [ha'] at hrun
    exact ⟨x, i, rfl, hrun⟩

theorem next_step (he : j.Exclusive) (hl : j.Linked) (hc : j.traffic.Cached) :
    j.traffic.Allows (step.event j) ∧ (step.next j).traffic = j.traffic.after (step.event j) := by
  obtain ⟨outcome, i, hrun, hstep⟩ := runOn_of_orderly .step step_orderly rfl nofun he hl
  obtain ⟨hbatch, ht⟩ := step_ok hc hrun
  rw [next, event, hstep]
  cases outcome with
  | paused => exact ⟨trivial, ht⟩
  | ran decision record denied resolutions => exact ⟨hbatch, ht⟩

theorem next_of_quiet (h : op.perform.Quiet) : (op.next j).traffic = j.traffic := h.traffic j

theorem next_command (c : Command) (j : Junction) :
    j.traffic.Allows ((command c).event j) ∧ ((command c).next j).traffic = j.traffic.after ((command c).event j) := by
  cases c with
  | pause | resume | shutdown => exact ⟨trivial, rfl⟩
  | setPolicy p =>
    exact ⟨trivial, next_of_quiet (.bind (.bind .get fun _ => .bind (swapPolicy_quiet p) fun _ => .pure _) fun _ =>
      .pure _)⟩
  | triggerEmergency lane kind =>
    rw [event, next_perform]
    show _ ∧ (((do let l ← ofExcept (Lane.ofIndex lane); triggerEmergency l kind) >>= fun b =>
      pure (Reply.flag b) : Act Reply).runOn j).2.traffic = _
    rw [runOn_then_pure, Lane.ofIndex]
    cases Lane.ofIndex? lane with
    | none => exact ⟨trivial, rfl⟩
    | some l => exact ⟨trivial, rfl⟩

/-- **What a regular operation does to the traffic** is what its event does. -/
theorem traffic_next (hreg : op.Regular) (he : j.Exclusive) (hl : j.Linked) (hc : j.traffic.Cached) :
    j.traffic.Allows (op.event j) ∧ (op.next j).traffic = j.traffic.after (op.event j) := by
  cases op with
  | arrive l kind => exact next_arrive l kind j
  | step => exact next_step he hl hc
  | command c => exact next_command c j
  | emergency l kind => exact ⟨trivial, rfl⟩
  | advance | setClock | release | requestStop | pause | resume => exact ⟨trivial, rfl⟩
  | request l count =>
    refine ⟨trivial, ?_⟩
    rw [next_perform, perform, runOn_bind_of_ok (runOn_onAllocator _ _), runOn_ofExcept_then]
    rfl
  | retry l =>
    refine ⟨trivial, ?_⟩
    rw [next_perform, perform, runOn_bind_of_ok (runOn_onAllocator _ _), runOn_ofExcept_then]
    rfl
  | sleep ms => exact ⟨trivial, next_of_quiet (.bind (.sleep ms) fun _ => .pure _)⟩
  | tickLane l =>
    exact ⟨trivial, next_of_quiet (.bind (.bind (.tryOnLane l fun a => a.still_tick l) fun _ => .bind .get fun _ =>
      .pure _) fun _ => .pure _)⟩
  | setPolicy p => exact ⟨trivial, next_of_quiet (.bind (swapPolicy_quiet p) fun _ => .pure _)⟩
  | sweep => exact ⟨trivial, next_of_quiet (.bind (sweeps_quiet.breakCycles 4) fun _ => .pure _)⟩
  | revalidate => exact ⟨trivial, next_of_quiet (.bind admits_quiet.revalidateBlocked fun _ => .pure _)⟩
  | _ => exact hreg.elim

end Operation

end Crossroads
