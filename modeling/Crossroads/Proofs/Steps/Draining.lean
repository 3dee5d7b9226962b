import Crossroads.Proofs.Steps.Preemption
/-!
# Draining

Every step of an undisturbed junction with something left to do gets some of it done, under every policy: a batch
crosses, or an emergency is handled, or both.  So steps drain the junction in as many of them as there are vehicles and
emergencies, and have nothing to do afterwards (`Junction.drains_reachable`).
-/
namespace Crossroads

open Junction

variable {j : Junction} {l : Lane} {k n : Nat}

namespace Junction

/-! ## What is left to do -/

def queued (j : Junction) : Nat := (j.lanes.map (fun a => a.queue.length)).sum

/-- The vehicles that are queued and the emergencies that are pending. -/
def workload (j : Junction) : Nat := j.queued + j.emergencies.count

theorem queue_length_le_queued (j : Junction) (l : Lane) : (j.lanes.get l).queue.length ≤ j.queued := by
  have hset := (j.lanes.map (fun a => a.queue.length)).sum_set l 0
  rw [PerLane.get_map] at hset
  rw [queued]
  omega

theorem exists_queue_pos (h : 0 < j.queued) : ∃ l, 0 < (j.lanes.get l).queue.length := by
  by_contra hno
  have hzero : ∀ l, (j.lanes.get l).queue.length = 0 := fun l => Nat.eq_zero_of_not_pos fun hl => hno ⟨l, hl⟩
  have hsum : j.queued = 0 := by
    have hmap : j.lanes.map (fun a => a.queue.length) = .replicate 0 := PerLane.ext_get fun l => by
      rw [PerLane.get_map, PerLane.get_replicate, hzero l]
    rw [queued, hmap]
    rfl
  omega

/-! ## When a lane is decided on -/

theorem Undisturbed.exists_decided (h : j.Undisturbed) (hw : 0 < j.workload) : ∃ l, j.decision.lane = some l := by
  cases hdue : j.dueEmergency with
  | some ev =>
    rw [decision_of_due hdue]
    refine ⟨ev.lane, ?_⟩
    split <;> rfl
  | none =>
    have hcount : j.emergencies.count = 0 := Nat.eq_zero_of_not_pos fun hcount => by
      obtain ⟨ev, hev⟩ := Emergencies.exists_next hcount
      rw [h.dueEmergency_eq, hev] at hdue
      cases hdue
    rw [workload, hcount] at hw
    obtain ⟨l, hl⟩ := exists_queue_pos hw
    cases ha : j.asked with
    | some target =>
      rw [decision_of_asked hdue ha]
      exact ⟨target, rfl⟩
    | none =>
      rw [decision_of_not_asked hdue ha]
      cases hrun : j.runningLane with
      | some m => exact ⟨m, rfl⟩
      | none =>
        have hready := (h.ready_or_runs hl).resolve_right (not_runs_of_runningLane h.linked hrun l)
        obtain ⟨target, htarget⟩ := exists_asked hready hrun
        rw [ha] at htarget
        cases htarget

theorem Undisturbed.pending_or_batch_pos (h : j.Undisturbed) (hd : j.decision.lane = some l) :
    j.emergencies.isPending l = true ∨ 0 < j.batch l := by
  cases hdue : j.dueEmergency with
  | some ev =>
    have hlane : ev.lane = l := by
      rw [decision_of_due hdue] at hd
      split at hd <;> exact Option.some.inj hd
    have hslot := h.placed.get_of_next (h.dueEmergency_eq.symm.trans hdue)
    rw [hlane] at hslot
    exact .inl (Option.isSome_iff_exists.2 ⟨ev, hslot⟩)
  | none =>
    refine .inr (h.batch_pos ?_)
    cases ha : j.asked with
    | some target =>
      rw [decision_of_asked hdue ha] at hd
      cases hd
      exact .inl (ready_of_asked ha)
    | none =>
      rw [decision_of_not_asked hdue ha] at hd
      cases hrun : j.runningLane with
      | some m =>
        rw [hrun] at hd
        cases hd
        exact .inr (runs_of_runningLane hrun)
      | none =>
        rw [hrun] at hd
        cases hd

theorem Undisturbed.decision_eq_idle (h : j.Undisturbed) (hw : j.workload = 0) : j.decision = .idle := by
  have hnone : j.decision.lane = none := by
    refine Option.eq_none_iff_forall_ne_some.2 fun l hd => ?_
    rw [workload] at hw
    rcases h.pending_or_batch_pos hd with hpending | hbatch
    · have hcount := j.emergencies.count_resolve l
      rw [hpending, Bool.toNat_true] at hcount
      omega
    · have hle : j.batch l ≤ (j.lanes.get l).queue.length := Nat.min_le_right _ _
      have hqueued := j.queue_length_le_queued l
      omega
  cases hd : j.decision with
  | idle => rfl
  | keep l | switch _ l _ =>
    rw [hd] at hnone
    cases hnone

/-! ## What a step gets done -/

theorem queued_eq_traffic (j : Junction) : j.queued = (j.traffic.lanes.map (fun t => t.queue.length)).sum := rfl

theorem Undisturbed.traffic_step (h : j.Undisturbed) (hp : j.paused = false) :
    (Operation.next j .step).traffic = j.traffic.pass.crossing (j.decision.lane.map j.readied.sliceRecord) := by
  have hevent : Operation.event .step j = .stepped (j.decision.lane.map j.readied.sliceRecord) := by
    rw [Operation.event, h.step_answer hp]
    rfl
  have hregular : Operation.step.Regular := trivial
  rw [(h.toSteady.traffic_next hregular).2, hevent]
  rfl

theorem next_step_paused (h : j.Undisturbed) (hp : j.paused = false) : (Operation.next j .step).paused = false := by
  rw [h.next_step_eq hp]
  rw [← hp]
  cases hd : j.decision.lane with
  | none =>
    rw [stepped_of_idle hd]
    rfl
  | some l =>
    rw [stepped_of_lane hd]
    rfl

/-- **A step that serves a lane** moves a batch of it from the queues to the vehicles processed, and handles the
emergency of the lane if one is pending. -/
theorem Undisturbed.step_lowers (h : j.Undisturbed) (hp : j.paused = false) (hd : j.decision.lane = some l) :
    (Operation.next j .step).queued + j.batch l = j.queued ∧
      (Operation.next j .step).emergencies.count + (j.emergencies.isPending l).toNat = j.emergencies.count ∧
      (Operation.next j .step).metrics.totalProcessed = j.metrics.totalProcessed + j.batch l := by
  have ht := h.traffic_step hp
  rw [hd] at ht
  have hbatch : (j.readied.sliceRecord l).vehicles = j.batch l := batch_readied hd
  refine ⟨?_, ?_, ?_⟩
  · have hsum := j.traffic.lanes.sum_map_modify l (·.serve (j.batch l)) (fun t => t.queue.length)
    have hdrop : ((j.traffic.lanes.get l).serve (j.batch l)).queue.length =
        (j.traffic.lanes.get l).queue.length - j.batch l := List.length_drop
    have hle : j.batch l ≤ (j.traffic.lanes.get l).queue.length := by
      rw [traffic_lanes_get]
      exact Nat.min_le_right _ _
    have hlanes : (Operation.next j .step).traffic.lanes = j.traffic.lanes.modify l (·.serve (j.batch l)) := by
      rw [ht, ← hbatch]
      rfl
    rw [queued_eq_traffic, queued_eq_traffic, hlanes]
    omega
  · have hresolved : (Operation.next j .step).emergencies = (j.emergencies.resolve l).2 :=
      congrArg Traffic.emergencies ht
    rw [hresolved]
    exact j.emergencies.count_resolve l
  · rw [← hbatch]
    exact congrArg (fun t : Traffic => t.tally.processed) ht

/-- **A step leaves less to do**, and what it takes from the queues is processed. -/
theorem Undisturbed.step_drains (h : j.Undisturbed) (hp : j.paused = false) :
    (Operation.next j .step).workload ≤ j.workload - 1 ∧
      (Operation.next j .step).metrics.totalProcessed + (Operation.next j .step).queued =
        j.metrics.totalProcessed + j.queued := by
  cases hd : j.decision.lane with
  | some l =>
    obtain ⟨hqueued, hcount, hprocessed⟩ := h.step_lowers hp hd
    rw [workload, workload]
    rcases h.pending_or_batch_pos hd with hpending | hbatch
    · rw [hpending, Bool.toNat_true] at hcount
      omega
    · omega
  | none =>
    have hnothing : j.workload = 0 := Nat.eq_zero_of_not_pos fun hw => by
      obtain ⟨l, hl⟩ := h.exists_decided hw
      rw [hd] at hl
      cases hl
    have ht := h.traffic_step hp
    rw [hd] at ht
    have hqueued : (Operation.next j .step).queued = j.queued :=
      congrArg (fun t : Traffic => (t.lanes.map (fun a : LaneTraffic => a.queue.length)).sum) ht
    have hemergencies : (Operation.next j .step).emergencies = j.emergencies := congrArg Traffic.emergencies ht
    have hprocessed : (Operation.next j .step).metrics.totalProcessed = j.metrics.totalProcessed :=
      congrArg (fun t : Traffic => t.tally.processed) ht
    rw [hprocessed, hqueued, workload, hqueued, hemergencies]
    rw [workload] at hnothing ⊢
    omega

/-! ## Runs of steps -/

theorem Undisturbed.steps_drain : ∀ (k : Nat) {j : Junction}, j.Undisturbed → j.paused = false →
    (j.after (.replicate k .step)).Undisturbed ∧ (j.after (.replicate k .step)).paused = false ∧
      (j.after (.replicate k .step)).workload ≤ j.workload - k ∧
      (j.after (.replicate k .step)).metrics.totalProcessed + (j.after (.replicate k .step)).queued =
        j.metrics.totalProcessed + j.queued
  | 0, j, h, hp => ⟨h, hp, Nat.le_refl _, rfl⟩
  | k + 1, j, h, hp => by
    obtain ⟨hless, hsame⟩ := h.step_drains hp
    obtain ⟨hi, hpaused, hwork, hprocessed⟩ := steps_drain k h.next_step (next_step_paused h hp)
    rw [List.replicate_succ]
    exact ⟨hi, hpaused, Nat.le_trans hwork (by omega), hprocessed.trans hsame⟩

/-- A junction with nothing to do: the vehicles that were queued in another one have crossed. -/
structure Drained (j i : Junction) : Prop where
  empty : ∀ l, (i.lanes.get l).queue.vehicles = []
  waiting : ∀ l, (i.lanes.get l).state = .waiting
  attended : i.emergencies.count = 0
  processed : i.metrics.totalProcessed = j.metrics.totalProcessed + j.queued
  idle : (Operation.step.runOn i).1 = .ok (.outcome (.ran .idle none false []))

theorem Undisturbed.drained {i : Junction} (h : i.Undisturbed) (hp : i.paused = false) (hw : i.workload = 0)
    (hprocessed : i.metrics.totalProcessed + i.queued = j.metrics.totalProcessed + j.queued) : j.Drained i := by
  rw [workload] at hw
  have hlen : ∀ l, (i.lanes.get l).queue.length = 0 := fun l => by
    have hle := i.queue_length_le_queued l
    omega
  refine ⟨fun l => List.eq_nil_of_length_eq_zero (hlen l), fun l => ?_, by omega, by omega, ?_⟩
  · have hcached : (i.lanes.get l).queueLength = (i.lanes.get l).queue.length := cached_lane h.balanced.cached l
    exact (h.settled l).waits.2 (hcached.trans (hlen l))
  · rw [h.step_answer hp, h.decision_eq_idle (by rw [workload]; omega)]
    rfl

/-- What steps come to in a junction that is not paused. -/
structure Drains (j : Junction) : Prop where
  /-- While anything is left to do, a step serves a batch of the lane it decides on, and leaves less to do. -/
  works : 0 < j.workload → ∃ decision r, (Operation.step.runOn j).1 = .ok (.outcome (.ran decision (some r) false [])) ∧
    decision.lane = some r.lane ∧ r.vehicles = min j.settings.batchSize (j.lanes.get r.lane).queue.length ∧
    ((Operation.next j .step).lanes.get r.lane).queue.vehicles = (j.lanes.get r.lane).queue.vehicles.drop r.vehicles ∧
    (Operation.next j .step).workload < j.workload
  /-- Steps in a row have nothing to do once there were as many of them as there was to do. -/
  drained : ∀ k, j.workload ≤ k → j.Drained (j.after (.replicate k .step))

/-- **Steps drain the junction**, whatever its configuration and policy. -/
theorem drains_reachable (h : j.Reachable Operation.HandsOff) (hp : j.paused = false) : j.Drains := by
  have hj := h.undisturbed
  refine ⟨fun hw => ?_, fun k hk => ?_⟩
  · obtain ⟨l, hd⟩ := hj.exists_decided hw
    have hbatch : (j.readied.sliceRecord l).vehicles = j.batch l := batch_readied hd
    refine ⟨j.decision, j.readied.sliceRecord l, ?_, hd, hbatch, ?_, ?_⟩
    · rw [hj.step_answer hp, hd]
      rfl
    · show ((Operation.next j .step).lanes.get l).queue.vehicles = _
      rw [hj.next_step_eq hp, stepped_get_self hd, hbatch]
      exact congrArg (fun t : LaneTraffic => t.queue.vehicles) (Approach.crossed_traffic _ _ _)
    · have hless := (hj.step_drains hp).1
      omega
  · obtain ⟨hi, hpaused, hwork, hprocessed⟩ := Undisturbed.steps_drain k hj hp
    exact hi.drained hpaused (by omega) hprocessed

/-- Four vehicles in the north and an ambulance in the south are six things to do. -/
theorem drains_reachable_six :
    let b : Blueprint := { config := { initialPolicy := .srtf } }
    let ops : List Operation := .replicate 4 (.arrive .north none) ++ [.arrive .south (some .ambulance)]
    let j : Junction := (b.assemble b.config 0).after ops
    j.paused = false ∧ j.workload = 6 ∧ j.Drains ∧ (j.after (.replicate 6 .step)).metrics.totalProcessed = 5 := by
  intro b ops j
  have hbuilt : (b.assemble b.config 0).Reachable Operation.HandsOff := .built (b := b) rfl
  have hpaused : j.paused = false := by decide +kernel
  have hwork : j.workload = 6 := by decide +kernel
  have hdrains : j.Drains :=
    drains_reachable (hbuilt.after ops (by simp [ops, Operation.HandsOff, Operation.Regular])) hpaused
  have hqueued : j.metrics.totalProcessed + j.queued = 5 := by decide +kernel
  exact ⟨hpaused, hwork, hdrains, (hdrains.drained 6 (Nat.le_of_eq hwork)).processed.trans hqueued⟩

end Junction
end Crossroads
