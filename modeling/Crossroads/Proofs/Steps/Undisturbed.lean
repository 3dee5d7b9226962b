import Crossroads.Proofs.Deadlock.Rounds
import Crossroads.Proofs.Steps.Pass
import Crossroads.Proofs.Steps.Serving
import Crossroads.Proofs.Traffic.Conservation
/-!
# Junctions without outside holders

As long as nobody but the junction itself asks for quadrants, all of them are free between operations, and a lane waits
exactly if nobody is queued (`Junction.Undisturbed`).  Such a junction takes its steps without fail (`runOn_step`): the
lane of the decision crosses, the others stay out of the crossing, and there is nothing to sweep.
-/
namespace Crossroads

open Act Junction

variable {j : Junction} {l m : Lane} {a : Approach}

/-! ## Nothing to retry, nothing to break -/

theorem runOn_collectLanes_none {f : Lane → Act Bool} (h : ∀ l, (f l).runOn j = (.ok false, j)) :
    ∀ ls, (collectLanes f ls).runOn j = (.ok [], j)
  | [] => rfl
  | l :: ls => by
    rw [collectLanes, runOn_bind_of_ok (h l), runOn_bind_of_ok (runOn_collectLanes_none h ls)]
    rfl

theorem runOn_revalidate_unblocked (h : (j.lanes.get l).state ≠ .blocked) : (revalidate l).runOn j = (.ok false, j) := by
  unfold revalidate
  rw [runOn_bind_of_ok (runOn_get j), isBlocked, decide_eq_false h]
  rfl

theorem runOn_revalidateBlocked_none (h : ∀ l, (j.lanes.get l).state ≠ .blocked) :
    revalidateBlocked.runOn j = (.ok [], j) := runOn_collectLanes_none (fun l => runOn_revalidate_unblocked (h l)) _

theorem runOn_readmitEmergencies_none (h : ∀ l, (j.lanes.get l).state ≠ .blocked) :
    readmitEmergencies.runOn j = (.ok (), j) := by
  have hlane : ∀ l, (readmitEmergency l).runOn j = (.ok false, j) := fun l => by
    unfold readmitEmergency
    rw [runOn_bind_of_ok (runOn_get j)]
    split
    · exact runOn_revalidate_unblocked (h l)
    · rfl
  rw [readmitEmergencies, discard_eq, runOn_bind_of_ok (runOn_collectLanes_none hlane _)]
  rfl

theorem runOn_sweepDeadlocks_none (h : ∀ l, (j.lanes.get l).state ≠ .blocked) :
    sweepDeadlocks.runOn j = (.ok [], j) :=
  runOn_breakCycles_done 4 (findCycle_eq_none_iff_stuckHolders.2 fun a _ ha _ => absurd ha.1.1 (h a))

theorem runOn_sweepEvery_none (h : ∀ l, (j.lanes.get l).state ≠ .blocked) (tick : Nat) :
    (sweepEvery tick).runOn j = (.ok [], j) := by
  unfold sweepEvery
  rw [runOn_bind_of_ok (runOn_get j)]
  split
  · rw [runOn_bind_of_ok (runOn_sweepDeadlocks_none h), discard_eq, bind_assoc,
      runOn_bind_of_ok (runOn_revalidateBlocked_none h)]
    rfl
  · rfl

/-! ## Junctions in which nobody is denied -/

/-- A lane that is not blocked, and waits exactly if nobody is queued. -/
structure Approach.Settled (a : Approach) : Prop where
  unblocked : a.state ≠ .blocked
  waits : a.state = .waiting ↔ a.queueLength = 0

/-- Every pending emergency is that of its own lane. -/
def Emergencies.Placed (e : Emergencies) : Prop := ∀ l ev, e.slots.get l = some ev → ev.lane = l

namespace Junction

/-- A junction in which all quadrants are free and nobody was ever denied any. -/
structure Undisturbed (j : Junction) : Prop extends j.Steady where
  free : j.allocator = {}
  crossable : 1 ≤ j.config.quadrantsPerCrossing ∧ j.config.quadrantsPerCrossing ≤ totalQuadrants
  batched : 1 ≤ j.settings.batchSize
  settled : ∀ l, (j.lanes.get l).Settled
  placed : j.emergencies.Placed
  prevented : j.metrics.deadlocksPrevented = 0
  resolved : j.metrics.deadlocksResolved = 0

theorem Undisturbed.ready_or_runs (h : j.Undisturbed) (hq : 0 < (j.lanes.get l).queue.length) :
    (j.lanes.get l).state = .ready ∨ j.Runs l := by
  have hlen : (j.lanes.get l).queueLength = (j.lanes.get l).queue.length := cached_lane h.balanced.cached l
  have hwaiting : (j.lanes.get l).state ≠ .waiting := fun hw => by
    have h0 := (h.settled l).waits.1 hw
    omega
  have hblocked := (h.settled l).unblocked
  rw [Runs]
  cases hs : (j.lanes.get l).state with
  | waiting => exact absurd hs hwaiting
  | ready => exact .inl rfl
  | running => exact .inr rfl
  | blocked => exact absurd hs hblocked

theorem Undisturbed.queue_pos (h : j.Undisturbed) (hs : (j.lanes.get l).state = .ready ∨ j.Runs l) :
    0 < (j.lanes.get l).queue.length := by
  have hlen : (j.lanes.get l).queueLength = (j.lanes.get l).queue.length := cached_lane h.balanced.cached l
  refine Nat.pos_of_ne_zero fun h0 => ?_
  have hwaiting := (h.settled l).waits.2 (hlen.trans h0)
  rcases hs with hs | hs
  · rw [hs] at hwaiting
    cases hwaiting
  · rw [Runs, hwaiting] at hs
    cases hs

theorem Undisturbed.batch_pos (h : j.Undisturbed) (hs : (j.lanes.get l).state = .ready ∨ j.Runs l) : 0 < j.batch l :=
  Nat.lt_min.2 ⟨h.batched, h.queue_pos hs⟩

/-- The time that a decision costs; a context switch costs none once a stop was requested. -/
def overheadMs (j : Junction) (d : Decision) : Nat :=
  if d.isSwitch = true ∧ j.stopped = false then j.settings.contextSwitchMs else 0

/-- The junction in the middle of a step, when the pass is over and paid for. -/
def readied (j : Junction) : Junction :=
  { j.passed with tick := j.tick + 1, clock := j.clock + j.overheadMs j.decision }

def stepped (j : Junction) : Junction := j.decision.lane.elim j.readied j.readied.served

end Junction

theorem runOn_payOverhead (d : Decision) (j : Junction) :
    (payOverhead d).runOn j = (.ok (), { j with clock := j.clock + j.overheadMs d }) := by
  unfold payOverhead overheadMs
  by_cases hd : d.isSwitch = true
  · rw [if_pos hd, runOn_bind_of_ok (runOn_get j), runOn_discard_sleep]
    simp only [hd, true_and]
  · rw [if_neg hd, if_neg fun h => hd h.1]
    rfl

namespace Junction

theorem readied_get_self (h : j.decision.lane = some l) :
    j.readied.lanes.get l = (j.lanes.get l).enter .running := by
  have hlanes : j.readied.lanes = j.decision.lane.elim j.lanes j.handedTo := rfl
  rw [hlanes, h]
  exact handedTo_get_self j l

theorem readied_get_of_ne (h : j.decision.lane = some l) (hm : m ≠ l) :
    j.readied.lanes.get m = (j.lanes.get m).stepAside := by
  have hlanes : j.readied.lanes = j.decision.lane.elim j.lanes j.handedTo := rfl
  rw [hlanes, h]
  exact handedTo_get_of_ne j hm

theorem batch_readied (h : j.decision.lane = some l) : j.readied.batch l = j.batch l := by
  rw [batch, readied_get_self h]
  rfl

theorem stepped_of_lane (h : j.decision.lane = some l) : j.stepped = j.readied.served l := by
  rw [stepped, h]
  rfl

theorem stepped_of_idle (h : j.decision.lane = none) : j.stepped = j.readied := by
  rw [stepped, h]
  rfl

theorem stepped_get_self (h : j.decision.lane = some l) :
    j.stepped.lanes.get l = ((j.lanes.get l).enter .running).crossed j.readied.clock (j.batch l) := by
  rw [stepped_of_lane h, served, PerLane.get_set_self, readied_get_self h, batch_readied h]

theorem stepped_get_of_ne (h : j.decision.lane = some l) (hm : m ≠ l) :
    j.stepped.lanes.get m = (j.lanes.get m).stepAside := by
  rw [stepped_of_lane h, served, PerLane.get_set_of_ne _ _ hm, readied_get_of_ne h hm]

theorem stepped_get_of_idle (h : j.decision.lane = none) (l : Lane) : j.stepped.lanes.get l = j.lanes.get l := by
  have hlanes : j.readied.lanes = j.decision.lane.elim j.lanes j.handedTo := rfl
  rw [stepped_of_idle h, hlanes, h]
  rfl

end Junction

/-! ### Lanes stay settled -/

namespace Approach

theorem Settled.stepAside (h : a.Settled) : a.stepAside.Settled := by
  by_cases hr : a.state = .running
  · rw [stepAside_of_running hr]
    unfold yieldState
    split
    · exact ⟨nofun, nofun, fun h0 => by rw [enter_queueLength] at h0; omega⟩
    · exact ⟨nofun, fun _ => by rw [enter_queueLength]; omega, fun _ => rfl⟩
  · rw [stepAside_of_ne hr]
    exact h

theorem settled_crossed (h : a.state = .running) (startMs n : Nat) : (a.crossed startMs n).Settled := by
  have hlen := crossed_queueLength a startMs n
  have hstate := crossed_state h startMs n
  constructor
  · rw [hstate]
    split <;> exact nofun
  · rw [hstate, hlen]
    split
    · rename_i h0
      exact ⟨fun _ => h0, fun _ => rfl⟩
    · rename_i h0
      exact ⟨nofun, fun h => absurd h h0⟩

end Approach

theorem Junction.Undisturbed.settled_stepped (h : j.Undisturbed) (l : Lane) : (j.stepped.lanes.get l).Settled := by
  cases hd : j.decision.lane with
  | none =>
    rw [stepped_get_of_idle hd]
    exact h.settled l
  | some m =>
    by_cases hl : l = m
    · subst hl
      rw [stepped_get_self hd]
      exact Approach.settled_crossed (Approach.enter_state _ _) _ _
    · rw [stepped_get_of_ne hd hl]
      exact (h.settled l).stepAside

/-- **A step of an undisturbed junction.** What the pass decides is carried out, nobody is denied, and no deadlock is
broken. -/
theorem runOn_step (h : j.Undisturbed) (hp : j.paused = false) :
    step.runOn j = (.ok (.ran j.decision (j.decision.lane.map j.readied.sliceRecord) false []), j.stepped) := by
  let i : Junction := { j with tick := j.tick + 1 }
  have htick : nextTick.runOn j = (.ok (j.tick + 1), i) := rfl
  have hpass : scheduleNext.runOn i = (.ok j.decision, { j.passed with tick := j.tick + 1 }) :=
    runOn_scheduleNext (j := i) ⟨h.exclusive.one, h.exclusive.count⟩ h.linked
  have hunblocked : ∀ l, (i.lanes.get l).state ≠ .blocked := fun l => (h.settled l).unblocked
  have hserve : (serveDecided j.decision.lane).runOn j.readied =
      (.ok (j.decision.lane.map j.readied.sliceRecord, false), j.stepped) := by
    cases hd : j.decision.lane with
    | none =>
      rw [stepped_of_idle hd]
      rfl
    | some l =>
      rw [stepped_of_lane hd]
      refine runOn_serveLane h.free h.crossable.1 h.crossable.2 ?_ ?_
      · rw [Runs, readied_get_self hd]
        rfl
      · rw [readied_get_self hd]
        exact cached_lane h.balanced.cached l
  unfold step
  rw [runOn_bind_of_ok (runOn_get j), hp, if_neg Bool.false_ne_true]
  rw [runOn_bind_of_ok htick, runOn_bind_of_ok (runOn_readmitEmergencies_none hunblocked), runOn_bind_of_ok hpass,
    runOn_bind_of_ok (runOn_payOverhead j.decision _)]
  refine (runOn_bind_of_ok hserve).trans ?_
  rw [runOn_bind_of_ok (runOn_sweepEvery_none (fun l => (h.settled_stepped l).unblocked) _)]
  rfl

theorem runOn_step_paused (hp : j.paused = true) : step.runOn j = (.ok .paused, j) := by
  unfold step
  rw [runOn_bind_of_ok (runOn_get j), hp]
  rfl

/-! ### As an operation -/

theorem Operation.runOn_step (j : Junction) : Operation.step.runOn j =
    ((Crossroads.step.runOn j).1.map .outcome, (Crossroads.step.runOn j).2) := runOn_then_pure _ _ j

namespace Junction

theorem Undisturbed.step_answer (h : j.Undisturbed) (hp : j.paused = false) : (Operation.step.runOn j).1 =
    .ok (.outcome (.ran j.decision (j.decision.lane.map j.readied.sliceRecord) false [])) := by
  rw [Operation.runOn_step, runOn_step h hp]
  rfl

theorem Undisturbed.next_step_eq (h : j.Undisturbed) (hp : j.paused = false) : Operation.next j .step = j.stepped := by
  rw [Operation.next, Operation.runOn_step, runOn_step h hp]

theorem step_answer_paused (hp : j.paused = true) : (Operation.step.runOn j).1 = .ok (.outcome .paused) := by
  rw [Operation.runOn_step, runOn_step_paused hp]
  rfl

theorem next_step_of_paused (hp : j.paused = true) : Operation.next j .step = j := by
  rw [Operation.next, Operation.runOn_step, runOn_step_paused hp]

end Junction
end Crossroads
