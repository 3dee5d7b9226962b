import Crossroads.Proofs.Steps.Decisions
/-!
# The lane that a switch names

A switch names the lane that the scheduler remembers.  That is the lane that it demotes as long as the lane still runs
(`Junction.reports_reachable`); a lane that has drained, or was blocked or made to give way, is remembered all the same
and named by the next switch although it demotes nobody (`Junction.switch_names_drained`).
-/
namespace Crossroads

variable {j : Junction} {l target : Lane} {source : Option Lane} {forced : Bool} {count : Nat}

namespace Junction

/-- The lane that the scheduler remembers runs. -/
def InForce (j : Junction) : Prop := ∀ l, j.scheduler.current = some l → j.Runs l

/-- What a switch reports. -/
structure Reports (j : Junction) (source : Option Lane) (target : Lane) (i : Junction) : Prop where
  remembered : source = j.scheduler.current
  /-- The lane that ran is named and no longer runs. -/
  demoted : ∀ l, j.Runs l → source = some l ∧ l ≠ target ∧
    (i.lanes.get l).state = if 0 < (j.lanes.get l).queueLength then .ready else .waiting
  /-- The lane that is named ran if it still was the right one to remember. -/
  named : (∀ l, source = some l ↔ j.Runs l) ↔ j.InForce
  /-- The target did not run before; now it runs and is remembered. -/
  promoted : ¬ j.Runs target ∧ i.Runs target ∧ i.scheduler.current = some target
  differs : j.InForce → j.scheduler.current ≠ some target
  untouched : ∀ l, ¬ j.Runs l → l ≠ target → i.lanes.get l = j.lanes.get l

theorem Judges.of_switch (h : j.Judges (.switch source target forced) count) :
    source = j.scheduler.current ∧ ¬ j.Runs target := by
  cases h with
  | emergency _ hr => exact ⟨rfl, hr⟩
  | chosen _ _ hchoice =>
    constructor
    · rfl
    · intro hr
      rw [Runs, ready_of_choose hchoice] at hr
      cases hr

theorem named_iff (hl : j.Linked) : (∀ l, j.scheduler.current = some l ↔ j.Runs l) ↔ j.InForce := by
  constructor
  · intro h l
    exact (h l).1
  · intro h l
    exact ⟨h l, hl l⟩

theorem reports_passed (ht : j.emergencies.Tidy) (hl : j.Linked) (hd : j.decision = .switch source target forced) :
    j.Reports source target j.passed := by
  have h := decides_passed ht hl
  have hcurrent : j.passed.scheduler.current = j.decision.lane.or j.scheduler.current := rfl
  rw [hd] at h hcurrent
  obtain ⟨rfl, htarget⟩ := h.judged.of_switch
  constructor
  · rfl
  · intro l hr
    have hne : l ≠ target := by
      rintro rfl
      exact htarget hr
    have haside : j.passed.lanes.get l = (j.lanes.get l).stepAside :=
      (h.lanes l).trans (if_neg fun he => hne (Option.some.inj he).symm)
    refine ⟨hl l hr, hne, ?_⟩
    rw [haside, Approach.stepAside_of_running hr, Approach.enter_state, Approach.yieldState]
  · exact named_iff hl
  · exact ⟨htarget, (h.runs target).2 rfl, hcurrent⟩
  · intro hforce he
    exact htarget (hforce target he)
  · intro l hr hne
    apply h.others l hr
    intro he
    exact hne (Option.some.inj he).symm

/-- **A switch names the lane that it demotes as long as the remembered lane runs**, and every switch is counted. -/
theorem reports_reachable (h : j.Reachable (fun op => ∀ l s, op ≠ .setState l s)) :
    ∃ d i, Operation.schedule.runOn j = (.ok (.decision d), i) ∧
      i.scheduler.contextSwitches = j.scheduler.contextSwitches + d.isSwitch.toNat ∧
        ∀ source target forced, d = .switch source target forced → j.Reports source target i := by
  obtain ⟨he, hl⟩ := h.inOrder
  refine ⟨j.decision, j.passed, runOn_schedule he hl, rfl, ?_⟩
  intro source target forced hd
  exact reports_passed h.tidy.emergencies hl hd

/-- The north runs and an ambulance comes to the south: the north is named, and it ran. -/
theorem reports_reachable_north :
    let ops : List Operation := [.arrive .north none, .schedule, .arrive .south (some .ambulance)]
    let j : Junction := (Blueprint.assemble { config := {} } {} 0).after ops
    ∃ i, Operation.schedule.runOn j = (.ok (.decision (.switch (some .north) .south true)), i) ∧
      j.Reports (some .north) .south i ∧ j.Runs .north := by
  intro ops j
  have hbuilt : (Blueprint.assemble { config := {} } {} 0).Reachable (fun op => ∀ l s, op ≠ .setState l s) :=
    .built (b := { config := {} }) rfl
  obtain ⟨d, i, hrun, -, hd⟩ := reports_reachable (hbuilt.after ops (by simp [ops]))
  have hanswer : (Operation.schedule.runOn j).1 = .ok (.decision (.switch (some .north) .south true)) := by
    decide +kernel
  rw [hrun] at hanswer
  cases hanswer
  exact ⟨i, hrun, hd _ _ _ rfl, by decide +kernel⟩

/-- The north has drained and waits.  When the south comes next, the switch names the north, which it does not demote;
when the north comes next, the switch leads from the north to the north, and is counted. -/
theorem switch_names_drained :
    let ops : List Operation := [.arrive .north none, .step]
    let j : Junction := (Blueprint.assemble { config := {} } {} 0).after (ops ++ [.arrive .south none])
    let i : Junction := (Blueprint.assemble { config := {} } {} 0).after (ops ++ [.arrive .north none])
    (j.Reachable Operation.HandsOff ∧ (j.lanes.get .north).state = .waiting ∧
      (Operation.schedule.runOn j).1 = .ok (.decision (.switch (some .north) .south false))) ∧
        i.Reachable Operation.HandsOff ∧ (i.lanes.get .north).state = .ready ∧
          (Operation.schedule.runOn i).1 = .ok (.decision (.switch (some .north) .north false)) ∧
            (Operation.schedule.next i).scheduler.contextSwitches = i.scheduler.contextSwitches + 1 := by
  intro ops j i
  have hbuilt : (Blueprint.assemble { config := {} } {} 0).Reachable Operation.HandsOff :=
    .built (b := { config := {} }) rfl
  have hafter : ∀ l, ∀ op ∈ ops ++ [.arrive l none], op.HandsOff := by
    simp [ops, Operation.HandsOff, Operation.Regular]
  exact ⟨⟨hbuilt.after _ (hafter .south), by decide +kernel, by decide +kernel⟩, hbuilt.after _ (hafter .north),
    by decide +kernel, by decide +kernel, by decide +kernel⟩

end Junction

end Crossroads
