import Mathlib.Data.List.Nodup
import Crossroads.Proofs.Steps.HandsOff
import Crossroads.Proofs.Steps.Switches
/-!
# The view of the ready lanes

The scheduler keeps a view of the ready lanes by arrival.  A pass that asks the policy, or leaves a lane within its
quantum, rebuilds the view first, so that it is right (`Junction.listsReady_readyByArrival`).  A pass that serves an
emergency does not: it leaves the view as it was (`Junction.readyQueue_scheduleNext`), which may be wrong
(`Junction.preemption_keeps_view`).
-/
namespace Crossroads

open Act

variable {j : Junction} {l : Lane} {a b : LaneSnapshot}

namespace LaneSnapshot

theorem fifoOrder_ne_gt_iff : a.fifoOrder b ≠ .gt ↔
    a.arrivalMs < b.arrivalMs ∨ a.arrivalMs = b.arrivalMs ∧ a.lane.index ≤ b.lane.index := by
  rw [fifoOrder]
  rcases Nat.lt_trichotomy a.arrivalMs b.arrivalMs with h | h | h
  · simp [Nat.compare_eq_lt.2 h, h]
  · simp [h, Nat.compare_eq_gt]
  · have hnot : ¬ a.arrivalMs < b.arrivalMs := by omega
    have hne : a.arrivalMs ≠ b.arrivalMs := by omega
    simp [Nat.compare_eq_gt.2 h, hnot, hne]

theorem pairwise_fifo (ss : List LaneSnapshot) :
    (ss.mergeSort fun a b => a.fifoOrder b != .gt).Pairwise fun a b => a.fifoOrder b ≠ .gt := by
  have hsorted : (ss.mergeSort fun a b => a.fifoOrder b != .gt).Pairwise fun a b => (a.fifoOrder b != .gt) = true := by
    apply List.pairwise_mergeSort
    · intro a b c
      simp only [bne_iff_ne, fifoOrder_ne_gt_iff]
      omega
    · intro a b
      simp only [Bool.or_eq_true, bne_iff_ne, fifoOrder_ne_gt_iff]
      omega
  exact hsorted.imp fun h => bne_iff_ne.1 h

end LaneSnapshot

namespace Junction

/-- The queue lists the ready lanes, each once, by the arrival at their heads and then by their numbers. -/
structure ListsReady (j : Junction) (queue : List Lane) : Prop where
  nodup : queue.Nodup
  mem_iff : ∀ l, l ∈ queue ↔ (j.lanes.get l).state = .ready
  sorted : queue.Pairwise fun l m => (j.lanes.get l).headArrivalMs < (j.lanes.get m).headArrivalMs ∨
    (j.lanes.get l).headArrivalMs = (j.lanes.get m).headArrivalMs ∧ l.index < m.index

theorem ready_snapshot (j : Junction) : j.snapshot.ready =
    (Lane.all.filter fun l => (j.lanes.get l).state = .ready).map fun l => (j.lanes.get l).snapshot l := by
  have hlanes : j.snapshot.lanes.toList = Lane.all.map fun l => (j.lanes.get l).snapshot l := by
    rw [PerLane.toList_eq, snapshot, laneSnapshots]
    exact List.map_congr_left fun l _ => PerLane.get_ofFn _ l
  rw [SystemSnapshot.ready, hlanes, List.filter_map]
  rfl

/-- There is room in the view for every lane. -/
theorem readyByArrival_eq (j : Junction) : Scheduler.readyByArrival j.snapshot =
    (j.snapshot.ready.mergeSort fun a b => a.fifoOrder b != .gt).map (·.lane) := by
  have hlength : j.snapshot.ready.length ≤ 4 := by
    rw [ready_snapshot, List.length_map]
    exact List.length_filter_le _ _
  rw [Scheduler.readyByArrival, List.take_of_length_le]
  rw [List.length_mergeSort, Scheduler.readyQueueCapacity]
  omega

/-- **The view is right when it is rebuilt.** -/
theorem listsReady_readyByArrival (j : Junction) : j.ListsReady (Scheduler.readyByArrival j.snapshot) := by
  have hperm : (Scheduler.readyByArrival j.snapshot).Perm
      (Lane.all.filter fun l => (j.lanes.get l).state = .ready) := by
    have hsame := (List.mergeSort_perm j.snapshot.ready fun a b => a.fifoOrder b != .gt).map (·.lane)
    rw [← readyByArrival_eq, ready_snapshot, List.map_map] at hsame
    simpa [Function.comp_def, Approach.snapshot] using hsame
  have hnodup : (Scheduler.readyByArrival j.snapshot).Nodup :=
    hperm.nodup_iff.2 ((by decide : Lane.all.Nodup).filter _)
  have hsorted : (Scheduler.readyByArrival j.snapshot).Pairwise fun l m =>
      (j.lanes.get l).headArrivalMs < (j.lanes.get m).headArrivalMs ∨
        (j.lanes.get l).headArrivalMs = (j.lanes.get m).headArrivalMs ∧ l.index ≤ m.index := by
    rw [readyByArrival_eq, List.pairwise_map]
    refine (LaneSnapshot.pairwise_fifo j.snapshot.ready).imp_of_mem fun {s t} hs ht hle => ?_
    rw [List.mem_mergeSort, ready_snapshot] at hs ht
    obtain ⟨l, -, rfl⟩ := List.mem_map.1 hs
    obtain ⟨m, -, rfl⟩ := List.mem_map.1 ht
    exact LaneSnapshot.fifoOrder_ne_gt_iff.1 hle
  refine ⟨hnodup, fun l => ?_, ?_⟩
  · rw [hperm.mem_iff, List.mem_filter, decide_eq_true_eq]
    exact and_iff_right (Lane.mem_all l)
  · refine (hsorted.and hnodup).imp fun {l m} h => ?_
    have hne : l.index ≠ m.index := fun heq => h.2 (Lane.index_inj heq)
    omega

/-- The schedulers of both junctions have one view. -/
def SameView (j i : Junction) : Prop := i.scheduler.readyQueue = j.scheduler.readyQueue

instance : IsPreorder Junction SameView where
  refl _ := rfl
  trans _ _ _ h k := Eq.trans k h

theorem switches_sameView : Switches (Moves SameView) :=
  Moves.switches (fun _ _ => rfl) (fun _ _ => rfl) (fun _ _ => rfl) fun _ _ h => h

/-- **What a pass does to the view**, whatever it answers: it rebuilds it, unless an emergency is due. -/
theorem readyQueue_scheduleNext (j : Junction) : (scheduleNext.runOn j).2.scheduler.readyQueue =
    if j.dueEmergency.isSome then j.scheduler.readyQueue else Scheduler.readyByArrival j.snapshot := by
  let i : Junction := { j with scheduler := { j.scheduler with tick := j.scheduler.tick + 1 } }
  show ((serveDue j.dueEmergency).runOn i).2.scheduler.readyQueue = _
  cases j.dueEmergency with
  | some event => exact switches_sameView.preempt event.lane i
  | none =>
    let k : Junction := { i with scheduler := { i.scheduler with readyQueue := Scheduler.readyByArrival j.snapshot } }
    have hrest : ∀ running choice,
        (if running.isSome && i.withinQuantum then keepRunning running else followChoice running choice).Moves
          SameView := fun running choice =>
      Moves.composes.ite (switches_sameView.keepRunning running) (switches_sameView.followChoice running choice)
    exact hrest _ _ k

/-- **The view is right after a pass exactly if no emergency was due or it was right before.** -/
theorem listsReady_after_pass (j : Junction) :
    (scheduleNext.runOn j).2.scheduler.readyQueue =
        (if j.dueEmergency.isSome then j.scheduler.readyQueue else Scheduler.readyByArrival j.snapshot) ∧
      j.ListsReady (Scheduler.readyByArrival j.snapshot) ∧
      (j.ListsReady (scheduleNext.runOn j).2.scheduler.readyQueue ↔
        j.dueEmergency = none ∨ j.ListsReady j.scheduler.readyQueue) := by
  refine ⟨j.readyQueue_scheduleNext, j.listsReady_readyByArrival, ?_⟩
  rw [readyQueue_scheduleNext]
  cases j.dueEmergency with
  | none => simp [listsReady_readyByArrival]
  | some event => simp

/-- A vehicle waits in the north when the police comes to the west: the pass serves the west, and the view does not show
the north. -/
theorem preemption_keeps_view :
    let j : Junction := (Blueprint.assemble { config := {} } {} 0).after [.arrive .north none, .emergency .west .police]
    j.Reachable Operation.HandsOff ∧ (j.lanes.get .north).state = .ready ∧
      ∃ i, Operation.schedule.runOn j = (.ok (.decision (.switch none .west true)), i) ∧
        i.scheduler.readyQueue = [] ∧ ¬ j.ListsReady i.scheduler.readyQueue := by
  intro j
  have hbuilt : (Blueprint.assemble { config := {} } {} 0).Reachable Operation.HandsOff :=
    .built (b := { config := {} }) rfl
  have hready : (j.lanes.get .north).state = .ready := by decide +kernel
  have hanswer : (Operation.schedule.runOn j).1 = .ok (.decision (.switch none .west true)) := by decide +kernel
  have hview : (Operation.schedule.runOn j).2.scheduler.readyQueue = [] := by decide +kernel
  refine ⟨hbuilt.after _ (by simp [Operation.HandsOff, Operation.Regular]), hready, _, ?_, hview, fun h => ?_⟩
  · rw [← hanswer]
  · have hnorth := (h.mem_iff .north).2 hready
    rw [hview] at hnorth
    cases hnorth

end Junction
end Crossroads
