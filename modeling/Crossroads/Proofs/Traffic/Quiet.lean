import Crossroads.Proofs.Exclusion.Running
import Crossroads.Proofs.Quadrants.Requests
import Crossroads.Proofs.Steps.Parts
/-!
# Traffic, and what leaves it alone

The traffic of a junction (`Junction.traffic`) is what vehicles and emergencies come to: the queues, the counts of what
went in and out, the pending emergencies, and the passes they are timed by.  What a junction does by itself is orderly
(`Act.Orderly`): it uses the allocator by its calls and fails only if an invariant is broken.  Most of it is quiet as
well (`Act.Quiet`): lanes change their states, the crossing changes hands and quadrants go back and forth, and the
traffic stays.
-/
namespace Crossroads

open Act

/-- What a lane has to do with traffic. -/
structure LaneTraffic where
  queue : VehicleQueue
  queueLength : Nat
  totalArrivals : Nat
  totalServed : Nat
deriving DecidableEq

structure Tally where
  generated : Nat
  overflows : Nat
  processed : Nat
  handled : Nat
  responseTicks : Nat
deriving DecidableEq

/-- What a junction has to do with traffic. -/
structure Traffic where
  lanes : PerLane LaneTraffic
  tally : Tally
  emergencies : Emergencies
  nextVehicle : Nat
  batchSize : Nat
  /-- Scheduling passes so far; emergencies are stamped with them. -/
  passes : Nat
deriving DecidableEq

def Approach.traffic (a : Approach) : LaneTraffic := ⟨a.queue, a.queueLength, a.totalArrivals, a.totalServed⟩

def Metrics.tally (m : Metrics) : Tally :=
  ⟨m.totalGenerated, m.queueOverflows, m.totalProcessed, m.emergenciesHandled, m.emergencyResponseTicks⟩

/-- A change of a lane that leaves its traffic alone, and is a breach should it be refused. -/
def Approach.Still (a : Approach) : Except TrafficError Approach → Prop
  | .ok b => b.traffic = a.traffic
  | .error e => (Fault.refused e).isBreach = true

namespace Approach

variable {a b : Approach}

theorem still_transition (a : Approach) (l : Lane) (s : LaneState) : a.Still (a.transition l s) := by
  unfold transition
  split <;> rfl

theorem Still.of_traffic {r : Except TrafficError Approach} (h : b.Still r) (hb : b.traffic = a.traffic) :
    a.Still r := by
  cases r with
  | ok c => exact Eq.trans h hb
  | error e => exact h

theorem still_unblock (a : Approach) (l : Lane) : a.Still (a.unblock l) := by
  unfold unblock
  split
  · exact (still_transition _ l _).of_traffic rfl
  · rfl

theorem traffic_turned (a : Approach) : a.turned.traffic = a.traffic := by
  unfold turned
  split
  · rfl
  split <;> rfl

theorem traffic_aged (a : Approach) : a.aged.traffic = a.traffic := by
  unfold aged
  split <;> rfl

theorem still_tick (a : Approach) (l : Lane) : a.Still (a.tick l) := by
  rw [tick_eq]
  exact (traffic_aged _).trans (traffic_turned a)

end Approach

namespace Junction

def traffic (j : Junction) : Traffic where
  lanes := j.lanes.map Approach.traffic
  tally := j.metrics.tally
  emergencies := j.emergencies
  nextVehicle := j.nextVehicle
  batchSize := j.settings.batchSize
  passes := j.scheduler.tick

theorem traffic_set_lane (j : Junction) (l : Lane) (a : Approach) :
    ({ j with lanes := j.lanes.set l a } : Junction).traffic =
      { j.traffic with lanes := j.traffic.lanes.set l a.traffic } := by
  show ({ j.traffic with lanes := (j.lanes.set l a).map Approach.traffic } : Traffic) = _
  rw [PerLane.map_set]
  rfl

theorem traffic_lanes_get (j : Junction) (l : Lane) : j.traffic.lanes.get l = (j.lanes.get l).traffic :=
  PerLane.get_map _ _ _

theorem traffic_set_lane_of_eq {j : Junction} {l : Lane} {a : Approach} (h : a.traffic = (j.lanes.get l).traffic) :
    ({ j with lanes := j.lanes.set l a } : Junction).traffic = j.traffic := by
  rw [traffic_set_lane, h, ← traffic_lanes_get, PerLane.set_get]

end Junction

def Junction.SameTraffic (j i : Junction) : Prop := i.traffic = j.traffic

/-- What became of the allocator came of its calls. -/
def Junction.Deals (j i : Junction) : Prop := j.allocator.Becomes i.allocator

instance : IsPreorder Junction Junction.SameTraffic where
  refl _ := rfl
  trans _ _ _ h k := Eq.trans k h

instance : IsPreorder Junction Junction.Deals where
  refl _ := .refl
  trans _ _ _ h k := Allocator.Becomes.trans h k

theorem Junction.Deals.total_eq {j i : Junction} (h : j.Deals i) : i.allocator.total = j.allocator.total :=
  Allocator.Becomes.total_eq h

namespace Act

variable {α β : Type}

/-- An action that uses the allocator by its calls only, and can fail only with a breach. -/
structure Orderly (a : Act α) : Prop where
  deals : a.Moves Junction.Deals
  firm : ∀ j f, (a.runOn j).1 = .error f → f.isBreach = true

/-- An orderly action that leaves the traffic alone. -/
structure Quiet (a : Act α) : Prop extends Orderly a where
  traffic : a.Moves Junction.SameTraffic

/-! ## Composition -/

namespace Orderly

theorem of_ok {a : Act α} (h : ∀ j : Junction, ∃ b i, a.runOn j = (.ok b, i) ∧ j.allocator.Becomes i.allocator) :
    a.Orderly where
  deals j := by
    obtain ⟨b, i, hrun, hb⟩ := h j
    rw [hrun]
    exact hb
  firm j f hf := by
    obtain ⟨b, i, hrun, -⟩ := h j
    rw [hrun] at hf
    cases hf

theorem pure (x : α) : (pure x : Act α).Orderly := of_ok fun j => ⟨x, j, rfl, .refl⟩

theorem get : (get : Act Junction).Orderly := of_ok fun j => ⟨j, j, rfl, .refl⟩

theorem bind {a : Act α} {k : α → Act β} (h : a.Orderly) (hk : ∀ x, (k x).Orderly) : (a >>= k).Orderly := by
  refine ⟨h.deals.bind fun x => (hk x).deals, fun j f hf => ?_⟩
  rcases hr : a.runOn j with ⟨g | x, i⟩
  · rw [runOn_bind_of_error hr] at hf
    cases hf
    exact h.firm j f (congrArg Prod.fst hr)
  · rw [runOn_bind_of_ok hr] at hf
    exact (hk x).firm i f hf

theorem composes : Composes Orderly := ⟨.pure, .get, .bind⟩

end Orderly

namespace Quiet

theorem of_ok {a : Act α}
    (h : ∀ j : Junction, ∃ b i, a.runOn j = (.ok b, i) ∧ i.traffic = j.traffic ∧ j.allocator.Becomes i.allocator) :
    a.Quiet where
  toOrderly := .of_ok fun j => by
    obtain ⟨b, i, hrun, -, hb⟩ := h j
    exact ⟨b, i, hrun, hb⟩
  traffic j := by
    obtain ⟨b, i, hrun, ht, -⟩ := h j
    rw [hrun]
    exact ht

theorem pure (x : α) : (pure x : Act α).Quiet := ⟨.pure x, .pure x⟩

theorem get : (get : Act Junction).Quiet := ⟨.get, .get⟩

theorem bind {a : Act α} {k : α → Act β} (h : a.Quiet) (hk : ∀ x, (k x).Quiet) : (a >>= k).Quiet :=
  ⟨h.toOrderly.bind fun x => (hk x).toOrderly, h.traffic.bind fun x => (hk x).traffic⟩

theorem composes : Composes Quiet := ⟨.pure, .get, .bind⟩

theorem traffic_eq {a : Act α} (h : a.Quiet) {j i : Junction} {r : Except Fault α} (hrun : a.runOn j = (r, i)) :
    i.traffic = j.traffic := h.traffic.of_runOn hrun

/-! ## Parts of the junction -/

theorem onScheduler {f : Scheduler → Scheduler} (h : ∀ s, (f s).tick = s.tick) : (onScheduler f).Quiet :=
  of_ok fun j => ⟨(), _, rfl, congrArg (fun n => { j.traffic with passes := n }) (h j.scheduler), .refl⟩

theorem onMetrics {f : Metrics → Metrics} (h : ∀ m, (f m).tally = m.tally) : (onMetrics f).Quiet :=
  of_ok fun j => ⟨(), _, rfl, congrArg (fun c => { j.traffic with tally := c }) (h j.metrics), .refl⟩

theorem request (l : Lane) (n : Nat) : (onAllocator (fun a => a.requestQuadrants l n)).Quiet :=
  of_ok fun _ => ⟨_, _, rfl, rfl, .request l n .refl⟩

theorem retry (l : Lane) : (onAllocator (fun a => a.retryPending l)).Quiet :=
  of_ok fun _ => ⟨_, _, rfl, rfl, .retry l .refl⟩

theorem release (l : Lane) : (onAllocator (fun a => a.release l)).Quiet :=
  of_ok fun _ => ⟨_, _, rfl, rfl, .release l .refl⟩

theorem onLane (l : Lane) {f : Approach → Approach} (h : ∀ a, (f a).traffic = a.traffic) : (onLane l f).Quiet :=
  of_ok fun _ => ⟨(), _, rfl, Junction.traffic_set_lane_of_eq (h _), .refl⟩

theorem tryOnLane (l : Lane) {f : Approach → Except TrafficError Approach} (h : ∀ a : Approach, a.Still (f a)) :
    (tryOnLane l f).Quiet where
  deals := Moves.of_lane fun _ _ _ => Allocator.Becomes.refl
  firm j g hg := by
    have hj := h (j.lanes.get l)
    rw [runOn_tryOnLane] at hg
    cases hr : f (j.lanes.get l) with
    | ok a =>
      rw [hr] at hg
      cases hg
    | error e =>
      rw [hr] at hj hg
      cases hg
      exact hj
  traffic := Moves.of_lane fun j b hb => by
    have hj := h (j.lanes.get l)
    rw [hb] at hj
    exact Junction.traffic_set_lane_of_eq hj

theorem report (v : Violation) : (report v).Quiet := by
  refine ⟨⟨fun j => ?_, fun j f hf => ?_⟩, fun j => ?_⟩ <;> rw [runOn_report] at *
  · exact Allocator.Becomes.refl
  · split at hf <;> cases hf
    rfl
  · rfl

theorem refuse {e : TrafficError} (h : (Fault.refused e).isBreach = true) : (refuse e : Act α).Quiet :=
  ⟨⟨.refuse e, fun _ _ hf => Except.error.inj hf ▸ h⟩, .refuse e⟩

theorem sleep (ms : Nat) : (sleep ms).Quiet := by
  refine of_ok fun j => ⟨_, _, runOn_sleep ms j, ?_⟩
  split
  · exact ⟨rfl, .refl⟩
  · exact ⟨rfl, .refl⟩

end Quiet
end Act

/-! ## What is quiet -/

theorem forceRunning_traffic (a : Approach) : a.forceRunning.traffic = a.traffic := by
  unfold Approach.forceRunning
  split <;> rfl

theorem reports_quiet : Reports Quiet where
  toComposes := Quiet.composes
  report := .report
  refuse _ := .refuse rfl

theorem switches_quiet : Switches Quiet where
  toReports := reports_quiet
  leave l := .tryOnLane l fun a => a.still_transition l a.yieldState
  enter l := .tryOnLane l fun a => a.still_transition l .running
  force l := .onLane l forceRunning_traffic
  renew _ := .onScheduler fun _ => by split <;> rfl
  take _ := .onScheduler fun _ => rfl
  count _ := .onMetrics fun _ => rfl
  abandon := .onScheduler fun _ => rfl
  confirm _ := .onScheduler fun _ => rfl

theorem admits_quiet : Admits Quiet where
  toComposes := Quiet.composes
  retry := .retry
  release := .release
  note l _ _ := .onLane l fun _ => rfl
  unblock l := .tryOnLane l fun a => a.still_unblock l
  request := .request
  denial := .onMetrics fun _ => rfl
  block l _ := .onLane l fun _ => rfl

theorem sweeps_quiet : Sweeps Quiet where
  toRetries := admits_quiet.toRetries
  report := .report
  refuse _ := .refuse rfl
  standDown l := Quiet.composes.standDown (.onLane l fun _ => rfl) (.tryOnLane l fun a => a.still_transition l .waiting)
  resolution := .onMetrics fun _ => rfl

theorem swapPolicy_quiet (p : Policy) : (swapPolicy p).Quiet := switches_quiet.swapPolicy (.onScheduler fun _ => rfl)

theorem serveDue_quiet (due : Option EmergencyEvent) : (serveDue due).Quiet :=
  switches_quiet.serveDue (fun _ => .onScheduler fun _ => rfl) due

theorem nextTick_quiet : nextTick.Quiet := .of_ok fun _ => ⟨_, _, rfl, rfl, .refl⟩

theorem payOverhead_quiet (d : Decision) : (payOverhead d).Quiet := Quiet.composes.payOverhead .sleep d

theorem finishSlice_quiet (l : Lane) (startMs : Nat) (opened : Option Nat) : (finishSlice l startMs opened).Quiet := by
  have hwait : (tryOnLane l (fun a => a.transition l .waiting)).Quiet :=
    .tryOnLane l fun a => a.still_transition l .waiting
  exact Quiet.composes.finishSlice (Quiet.composes.crossBatch .sleep)
    (Quiet.composes.closeSlice hwait (fun _ => .onMetrics fun _ => rfl) startMs)
    (fun _ => .onScheduler fun _ => rfl) opened

end Crossroads
