import Crossroads.Proofs.Steps.Pass
import Crossroads.Proofs.Traffic.Foremost
/-!
# A pass decides by what the lanes show

The decision of a pass follows from the lanes, the pending emergencies and the slices used, in a fixed order
(`Junction.Judges`), and afterwards its lane and no other runs.  Apart from the lane that ran before and the one that
runs now a pass leaves the lanes as they are, and it touches neither queues nor quadrants nor emergencies
(`Junction.decides_reachable`).
-/
namespace Crossroads

open Act

variable {j : Junction} {a : Approach} {l : Lane} {d : Decision}

namespace Approach

/-- The lane has the same vehicles and the same quadrants. -/
structure SameLoad (a b : Approach) : Prop where
  queue : b.queue = a.queue
  queueLength : b.queueLength = a.queueLength
  allocated : b.allocatedQuadrants = a.allocatedQuadrants
  requested : b.requestedQuadrants = a.requestedQuadrants

theorem sameLoad_enter (a : Approach) (s : LaneState) : a.SameLoad (a.enter s) := ⟨rfl, rfl, rfl, rfl⟩

theorem sameLoad_stepAside (a : Approach) : a.SameLoad a.stepAside := by
  unfold stepAside
  split
  · exact a.sameLoad_enter _
  · exact ⟨rfl, rfl, rfl, rfl⟩

end Approach

namespace Junction

/-! ## The order of the reasons -/

/-- The emergency is foremost among those whose lanes are not blocked. -/
def Due (j : Junction) (ev : EmergencyEvent) : Prop := j.emergencies.Foremost (fun l => !j.isBlocked l) ev

/-- Emergencies are pending on blocked lanes only. -/
def NoneDue (j : Junction) : Prop := ∀ l, j.emergencies.isPending l = true → j.isBlocked l = true

/-- What the policy would choose from the lanes as they are. -/
def choice (j : Junction) : Option Lane := j.scheduler.policy.choose j.settings.policyParams j.snapshot

/-- The running lane has to leave the crossing to the choice of the policy. -/
def Contestable (j : Junction) : Prop :=
  j.scheduler.policy.isPreemptive = true ∨ j.settings.timeQuantum ≤ j.scheduler.sliceCount

/-- **What a pass decides, and the slice count it leaves**, by the first reason that applies. -/
inductive Judges (j : Junction) : Decision → Nat → Prop where
  | emergencyRuns {ev : EmergencyEvent} : j.Due ev → j.Runs ev.lane → Judges j (.keep ev.lane) j.scheduler.sliceCount
  | emergency {ev : EmergencyEvent} : j.Due ev → ¬ j.Runs ev.lane →
    Judges j (.switch j.scheduler.current ev.lane true) 0
  | withinQuantum {l : Lane} : j.NoneDue → j.Runs l → j.scheduler.policy.isPreemptive = false →
    j.scheduler.sliceCount < j.settings.timeQuantum → Judges j (.keep l) j.scheduler.sliceCount
  | chosen {l : Lane} : j.NoneDue → (∀ m, j.Runs m → j.Contestable) → j.choice = some l →
    Judges j (.switch j.scheduler.current l false) 0
  /-- The policy does not choose, and a used-up quantum begins anew. -/
  | unchallenged {l : Lane} : j.NoneDue → j.Runs l → j.Contestable → j.choice = none →
    Judges j (.keep l) (if j.settings.timeQuantum ≤ j.scheduler.sliceCount then 0 else j.scheduler.sliceCount)
  | idle : j.NoneDue → (∀ l, ¬ j.Runs l) → j.choice = none → Judges j .idle j.scheduler.sliceCount

theorem withinQuantum_eq_true_iff : j.withinQuantum = true ↔
    j.scheduler.policy.isPreemptive = false ∧ j.scheduler.sliceCount < j.settings.timeQuantum := by
  simp [withinQuantum]

theorem withinQuantum_eq_false_iff : j.withinQuantum = false ↔ j.Contestable := by
  simp [withinQuantum, Contestable, ← Bool.not_eq_false, imp_iff_not_or]

theorem renews_of_due {ev : EmergencyEvent} (h : j.dueEmergency = some ev) : j.renews = false := by
  rw [renews, h]
  rfl

theorem asked_of_withinQuantum (hr : j.runningLane = some l) (h : j.withinQuantum = true) : j.asked = none := by
  rw [asked, hr, h]
  rfl

theorem asked_of_contestable (h : ∀ l, j.runningLane = some l → j.Contestable) : j.asked = j.choice := by
  rw [asked]
  refine if_neg fun hboth => ?_
  obtain ⟨hr, hq⟩ := Bool.and_eq_true_iff.1 hboth
  obtain ⟨l, hr⟩ := Option.isSome_iff_exists.1 hr
  rw [withinQuantum_eq_false_iff.2 (h l hr)] at hq
  cases hq

theorem noneDue_of_dueEmergency (ht : j.emergencies.Tidy) (h : j.dueEmergency = none) : j.NoneDue := by
  intro l hl
  have hblocked := ht.nextWhere_eq_none_iff.1 h l hl
  rwa [Bool.not_eq_false'] at hblocked

theorem judges_due (ht : j.emergencies.Tidy) {ev : EmergencyEvent} (h : j.dueEmergency = some ev) :
    j.Judges j.decision j.passed.scheduler.sliceCount := by
  have hdue : j.Due ev := ht.nextWhere_eq_some_iff.1 h
  have hcount : j.passed.scheduler.sliceCount = if j.decision.isSwitch then 0 else j.scheduler.sliceCount := by
    rw [passed, renews_of_due h, Bool.or_false]
  rw [hcount, decision_of_due h]
  by_cases hr : j.Runs ev.lane
  · rw [if_pos hr]
    exact .emergencyRuns hdue hr
  · rw [if_neg hr]
    exact .emergency hdue hr

theorem judges_kept (hnone : j.NoneDue) (hdue : j.dueEmergency = none) (ha : j.asked = none)
    (hr : j.runningLane = some l) : j.Judges j.decision j.passed.scheduler.sliceCount := by
  have hd : j.decision = .keep l := by
    rw [decision_of_not_asked hdue ha, hr]
    rfl
  have hcount : j.passed.scheduler.sliceCount =
      if j.settings.timeQuantum ≤ j.scheduler.sliceCount then 0 else j.scheduler.sliceCount := by
    rw [passed, renews, hd, hdue]
    simp [Decision.isSwitch, Decision.lane]
  have hruns := runs_of_runningLane hr
  rw [hcount, hd]
  cases hq : j.withinQuantum with
  | true =>
    obtain ⟨hpolicy, hlt⟩ := withinQuantum_eq_true_iff.1 hq
    rw [if_neg (Nat.not_le.2 hlt)]
    exact .withinQuantum hnone hruns hpolicy hlt
  | false =>
    have hcontest := withinQuantum_eq_false_iff.1 hq
    rw [asked_of_contestable fun _ _ => hcontest] at ha
    exact .unchallenged hnone hruns hcontest ha

theorem judges_asked (hnone : j.NoneDue) (hdue : j.dueEmergency = none) {target : Lane} (ha : j.asked = some target)
    (hl : j.Linked) : j.Judges j.decision j.passed.scheduler.sliceCount := by
  have hd := decision_of_asked hdue ha
  have hcount : j.passed.scheduler.sliceCount = 0 := by
    rw [passed, hd]
    rfl
  have hcontest : ∀ m, j.runningLane = some m → j.Contestable := fun m hm => by
    refine withinQuantum_eq_false_iff.1 (Bool.eq_false_iff.2 fun hq => ?_)
    rw [asked_of_withinQuantum hm hq] at ha
    cases ha
  rw [asked_of_contestable hcontest] at ha
  rw [hcount, hd]
  exact .chosen hnone (fun m hm => hcontest m (hl.runningLane_eq hm)) ha

/-- **A pass judges by what the lanes show.** -/
theorem judges_decision (ht : j.emergencies.Tidy) (hl : j.Linked) :
    j.Judges j.decision j.passed.scheduler.sliceCount := by
  cases hdue : j.dueEmergency with
  | some ev => exact judges_due ht hdue
  | none =>
    have hnone := noneDue_of_dueEmergency ht hdue
    cases ha : j.asked with
    | some target => exact judges_asked hnone hdue ha hl
    | none =>
      cases hr : j.runningLane with
      | some l => exact judges_kept hnone hdue ha hr
      | none =>
        have hd : j.decision = .idle := by
          rw [decision_of_not_asked hdue ha, hr]
          rfl
        have hcount : j.passed.scheduler.sliceCount = j.scheduler.sliceCount := by
          rw [passed, renews, hd, hdue]
          rfl
        rw [asked_of_contestable fun l hl => by rw [hr] at hl; cases hl] at ha
        rw [hcount, hd]
        exact .idle hnone (not_runs_of_runningLane hl hr) ha

/-! ## What a pass leaves -/

theorem runningLane_of_idle (h : j.decision.lane = none) : j.runningLane = none := by
  cases hdue : j.dueEmergency with
  | some ev =>
    rw [decision_of_due hdue] at h
    split at h <;> cases h
  | none =>
    cases ha : j.asked with
    | some target =>
      rw [decision_of_asked hdue ha] at h
      cases h
    | none =>
      rw [decision_of_not_asked hdue ha] at h
      cases hr : j.runningLane with
      | none => rfl
      | some l =>
        rw [hr] at h
        cases h

theorem passed_get (hl : j.Linked) (l : Lane) : j.passed.lanes.get l =
    if j.decision.lane = some l then (j.lanes.get l).enter .running else (j.lanes.get l).stepAside := by
  have hlanes : j.passed.lanes = j.decision.lane.elim j.lanes j.handedTo := rfl
  rw [hlanes]
  cases hd : j.decision.lane with
  | none =>
    have hruns := not_runs_of_runningLane hl (runningLane_of_idle hd) l
    exact (Approach.stepAside_of_ne hruns).symm
  | some m =>
    by_cases hm : l = m
    · rw [hm, if_pos rfl]
      exact handedTo_get_self j m
    · rw [if_neg fun e => hm (Option.some.inj e).symm]
      exact handedTo_get_of_ne j hm

theorem runs_passed_iff (hl : j.Linked) : j.passed.Runs l ↔ j.decision.lane = some l := by
  rw [Runs, passed_get hl]
  split
  · rename_i hd
    exact ⟨fun _ => hd, fun _ => rfl⟩
  · rename_i hd
    exact ⟨fun hr => absurd hr (Approach.stepAside_state_ne _), fun h => absurd h hd⟩

theorem Judges.not_blocked {count : Nat} (h : j.Judges d count) (hd : d.lane = some l) : j.isBlocked l = false := by
  have hruns : ∀ m, j.Runs m → j.isBlocked m = false := fun m hm => by
    rw [isBlocked, hm]
    rfl
  cases h with
  | emergencyRuns hdue _ | emergency hdue _ =>
    cases hd
    have heligible := hdue.eligible
    rwa [Bool.not_eq_true'] at heligible
  | withinQuantum _ hr _ _ | unchallenged _ hr _ _ =>
    cases hd
    exact hruns _ hr
  | chosen _ _ hchoice =>
    cases hd
    rw [isBlocked, ready_of_choose hchoice]
    rfl
  | idle => cases hd

theorem not_ready_of_idle (h : j.decision = .idle) (l : Lane) : (j.lanes.get l).state ≠ .ready := by
  intro hready
  have hnone : j.runningLane = none := runningLane_of_idle (by rw [h]; rfl)
  obtain ⟨target, ha⟩ := exists_asked hready hnone
  cases hdue : j.dueEmergency with
  | some ev =>
    rw [decision_of_due hdue] at h
    split at h <;> cases h
  | none =>
    rw [decision_of_asked hdue ha] at h
    cases h

/-- What a pass comes to: its decision, and the junction afterwards. -/
structure Decides (j : Junction) (d : Decision) (i : Junction) : Prop where
  judged : j.Judges d i.scheduler.sliceCount
  runs : ∀ l, i.Runs l ↔ d.lane = some l
  idle : d = .idle → ∀ l, (j.lanes.get l).state ≠ .ready
  lanes : ∀ l, i.lanes.get l = if d.lane = some l then (j.lanes.get l).enter .running else (j.lanes.get l).stepAside
  /-- Only the lane that ran before and the one that was chosen change. -/
  others : ∀ l, ¬ j.Runs l → d.lane ≠ some l → i.lanes.get l = j.lanes.get l
  blocked : ∀ l, j.isBlocked l = true → i.lanes.get l = j.lanes.get l
  load : ∀ l, (j.lanes.get l).SameLoad (i.lanes.get l)
  /-- No quadrant changes hands, and no emergency is touched. -/
  frame : i = { j with lanes := i.lanes, scheduler := i.scheduler, metrics := i.metrics }
  tick : i.scheduler.tick = j.scheduler.tick + 1
  contextSwitches : i.scheduler.contextSwitches = j.scheduler.contextSwitches + d.isSwitch.toNat
  metrics : i.metrics = if d.isSwitch then j.metrics.recordContextSwitch j.settings.contextSwitchMs else j.metrics

theorem decides_passed (ht : j.emergencies.Tidy) (hl : j.Linked) : j.Decides j.decision j.passed := by
  have hjudged := judges_decision ht hl
  have hothers : ∀ l, ¬ j.Runs l → j.decision.lane ≠ some l → j.passed.lanes.get l = j.lanes.get l := fun l hr hd => by
    rw [passed_get hl, if_neg hd, Approach.stepAside_of_ne hr]
  refine ⟨hjudged, fun l => runs_passed_iff hl, not_ready_of_idle, passed_get hl, hothers, fun l hb => ?_,
    fun l => ?_, rfl, rfl, rfl, rfl⟩
  · refine hothers l (fun hr => ?_) fun hd => ?_
    · rw [isBlocked, hr] at hb
      cases hb
    · rw [hjudged.not_blocked hd] at hb
      cases hb
  · rw [passed_get hl]
    split
    · exact Approach.sameLoad_enter _ _
    · exact Approach.sameLoad_stepAside _

theorem runOn_schedule (he : j.Exclusive) (hl : j.Linked) :
    Operation.schedule.runOn j = (.ok (.decision j.decision), j.passed) := by
  have hrun : Operation.schedule.runOn j = ((scheduleNext.runOn j).1.map .decision, (scheduleNext.runOn j).2) :=
    Operation.runOn_then_pure _ _ j
  rw [hrun, runOn_scheduleNext he hl]
  rfl

/-- **A pass never fails, and decides by what the lanes show**, whatever was done to the junction before, as long as no
state was set by hand. -/
theorem decides_reachable (h : j.Reachable (fun op => ∀ l s, op ≠ .setState l s)) :
    ∃ d i, Operation.schedule.runOn j = (.ok (.decision d), i) ∧ j.Decides d i := by
  obtain ⟨he, hl⟩ := h.inOrder
  exact ⟨j.decision, j.passed, runOn_schedule he hl, decides_passed h.tidy.emergencies hl⟩

/-- The north runs within its quantum, an ambulance is pending on the south and a police car on the west, which is
blocked: the crossing goes to the south. -/
theorem decides_reachable_south : ∃ j i : Junction, j.Runs .north ∧ j.emergencies.isPending .west = true ∧
    j.isBlocked .west = true ∧ Operation.schedule.runOn j = (.ok (.decision (.switch (some .north) .south true)), i) ∧
      j.Decides (.switch (some .north) .south true) i := by
  let j₀ : Junction := Blueprint.assemble { config := {} } {} 0
  let ops : List Operation := [.request .south 4, .emergency .west .police, .step, .release .south,
    .enqueueNow .north 1, .schedule, .enqueueNow .south 2, .emergency .south .ambulance]
  have hbuilt : j₀.Reachable (fun op => ∀ l s, op ≠ .setState l s) := .built (b := { config := {} }) rfl
  obtain ⟨d, i, hrun, hd⟩ := decides_reachable (hbuilt.after ops (by simp [ops]))
  have hanswer : (Operation.schedule.runOn (j₀.after ops)).1 =
      .ok (.decision (.switch (some .north) .south true)) := by decide +kernel
  rw [hrun] at hanswer
  cases hanswer
  exact ⟨_, i, by decide +kernel, by decide +kernel, by decide +kernel, hrun, hd⟩

end Junction

end Crossroads
