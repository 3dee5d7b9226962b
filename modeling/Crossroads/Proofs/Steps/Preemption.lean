import Crossroads.Proofs.Steps.HandsOff
/-!
# Preemption by an emergency

While an emergency is pending in an undisturbed junction, the next step serves the one that is next, whatever the policy
and however much of its quantum the running lane has left: its lane crosses, and the lane that had the crossing falls
back (`Junction.emergency_preempts`).
-/
namespace Crossroads

open Junction

variable {j : Junction} {a : Approach} {em : Emergencies} {ev : EmergencyEvent} {n startMs : Nat}

/-! ## The next emergency -/

namespace Emergencies

theorem exists_next (h : 0 < em.count) : ∃ ev, em.next = some ev := by
  refine Option.ne_none_iff_exists'.1 fun hnone => ?_
  have hempty : em.pending = [] := by
    rw [← List.filter_true em.pending]
    exact firstLeast?_eq_none_iff.1 hnone
  rw [count, hempty] at h
  exact absurd h (Nat.lt_irrefl 0)

theorem Placed.get_of_next (h : em.Placed) (hn : em.next = some ev) : em.slots.get ev.lane = some ev := by
  have hmem : ev ∈ em.pending := (List.mem_filter.1 (mem_of_firstLeast? hn)).1
  obtain ⟨slot, hslot, hev⟩ := List.mem_filterMap.1 hmem
  rw [PerLane.toList_eq] at hslot
  obtain ⟨l, -, rfl⟩ := List.mem_map.1 hslot
  rw [h l ev hev]
  exact hev

theorem resolve_slots (h : em.slots.get l = some ev) : (em.resolve l).2.slots = em.slots.set l none := by
  rw [resolve, h]

end Emergencies

theorem Junction.Undisturbed.dueEmergency_eq (h : j.Undisturbed) : j.dueEmergency = j.emergencies.next := by
  have heligible : (fun l => !j.isBlocked l) = fun _ => true := funext fun l => by
    rw [isBlocked, decide_eq_false (h.settled l).unblocked]
    rfl
  rw [dueEmergency, heligible]
  rfl

/-! ## The states of the lanes -/

namespace Approach

theorem crossed_cached (h : a.traffic.Cached) : (a.crossed startMs n).traffic.Cached := by
  rw [crossed_traffic]
  exact LaneTraffic.Cached.serve h n

theorem crossed_state_eq (hr : a.state = .running) (h : a.traffic.Cached) :
    (a.crossed startMs n).state = if (a.crossed startMs n).queue.isEmpty then .waiting else .running := by
  rw [crossed_state hr, ← crossed_queueLength a startMs n]
  exact if_congr (queue_isEmpty_iff (crossed_cached h)).symm rfl rfl

theorem stepAside_state (h : a.traffic.Cached) : a.stepAside.state =
    if a.state = .running then if a.queue.isEmpty then .waiting else .ready else a.state := by
  by_cases hr : a.state = .running
  · rw [stepAside_of_running hr, if_pos hr, enter_state, yieldState]
    by_cases h0 : a.queueLength = 0
    · rw [if_neg (by omega), if_pos ((queue_isEmpty_iff h).2 h0)]
    · rw [if_pos (by omega), if_neg fun he => h0 ((queue_isEmpty_iff h).1 he)]
  · rw [stepAside_of_ne hr, if_neg hr]

end Approach

/-! ## The step -/

namespace Junction

/-- What a step does to a junction in which an emergency is next. -/
structure ServesEmergency (j : Junction) (ev : EmergencyEvent) : Prop where
  /-- The emergency is the one that is pending for its lane. -/
  pending : j.emergencies.slots.get ev.lane = some ev
  /-- The lane keeps the crossing or is forced into it, and crosses with a batch. -/
  answer : ∃ r, (Operation.step.runOn j).1 = .ok (.outcome (.ran
      (if j.Runs ev.lane then .keep ev.lane else .switch j.scheduler.current ev.lane true) (some r) false [])) ∧
    r.lane = ev.lane ∧ r.vehicles = min j.settings.batchSize (j.lanes.get ev.lane).queue.length
  /-- The emergency is over, and no other one is touched. -/
  resolved : (Operation.next j .step).emergencies.slots = j.emergencies.slots.set ev.lane none
  /-- The lane runs on exactly if vehicles remain. -/
  served : ((Operation.next j .step).lanes.get ev.lane).state =
    if ((Operation.next j .step).lanes.get ev.lane).queue.isEmpty then .waiting else .running
  /-- A lane that ran before is ready exactly if it has vehicles, and the others keep their states. -/
  others : ∀ m, m ≠ ev.lane → ((Operation.next j .step).lanes.get m).queue = (j.lanes.get m).queue ∧
    ((Operation.next j .step).lanes.get m).state =
      if j.Runs m then if (j.lanes.get m).queue.isEmpty then .waiting else .ready else (j.lanes.get m).state

theorem Undisturbed.servesEmergency (h : j.Undisturbed) (hp : j.paused = false) (hev : j.emergencies.next = some ev) :
    j.ServesEmergency ev := by
  have hd : j.decision = if j.Runs ev.lane then .keep ev.lane else .switch j.scheduler.current ev.lane true :=
    decision_of_due (h.dueEmergency_eq.trans hev)
  have hlane : j.decision.lane = some ev.lane := by
    rw [hd]
    split <;> rfl
  have hslot := h.placed.get_of_next hev
  have hnext := h.next_step_eq hp
  refine ⟨hslot, ⟨j.readied.sliceRecord ev.lane, ?_, rfl, ?_⟩, ?_, ?_, fun m hm => ?_⟩
  · rw [h.step_answer hp, hlane, ← hd]
    rfl
  · exact batch_readied hlane
  · rw [hnext, stepped_of_lane hlane]
    exact Emergencies.resolve_slots hslot
  · rw [hnext, stepped_get_self hlane]
    exact Approach.crossed_state_eq (Approach.enter_state _ _) (cached_lane h.balanced.cached ev.lane)
  · rw [hnext, stepped_get_of_ne hlane hm]
    exact ⟨(j.lanes.get m).stepAside_queue, Approach.stepAside_state (cached_lane h.balanced.cached m)⟩

/-- **A pending emergency preempts within one step**, whatever the policy and the states of the lanes. -/
theorem emergency_preempts (h : j.Reachable Operation.HandsOff) (hp : j.paused = false) (he : 0 < j.emergencies.count) :
    ∃ ev, j.emergencies.next = some ev ∧ j.ServesEmergency ev := by
  obtain ⟨ev, hev⟩ := Emergencies.exists_next he
  exact ⟨ev, hev, h.undisturbed.servesEmergency hp hev⟩

/-- The north runs within its quantum when an ambulance comes up to the south. -/
theorem emergency_preempts_south :
    let ops : List Operation := .replicate 4 (.arrive .north none) ++ [.step, .arrive .south (some .ambulance)]
    let j : Junction := (Blueprint.assemble { config := {} } {} 0).after ops
    j.Runs .north ∧ j.paused = false ∧ 0 < j.emergencies.count ∧
      ∃ ev, j.emergencies.next = some ev ∧ ev.lane = .south ∧ j.ServesEmergency ev := by
  intro ops j
  have hbuilt : (Blueprint.assemble { config := {} } {} 0).Reachable Operation.HandsOff :=
    .built (b := { config := {} }) rfl
  have hpaused : j.paused = false := by decide +kernel
  have hcount : 0 < j.emergencies.count := by decide +kernel
  have hsouth : j.emergencies.next.map (·.lane) = some .south := by decide +kernel
  obtain ⟨ev, hev, hserves⟩ :=
    emergency_preempts (hbuilt.after ops (by simp [ops, Operation.HandsOff, Operation.Regular])) hpaused hcount
  rw [hev] at hsouth
  exact ⟨by decide +kernel, hpaused, hcount, ev, hev, Option.some.inj hsouth, hserves⟩

end Junction
end Crossroads
