import Crossroads.Proofs.Steps.Decisions
import Crossroads.Proofs.Steps.Receding
import Crossroads.Proofs.Steps.Turns
/-!
# No lane keeps the crossing for ever

While a lane is ready and nothing else interferes, every step hands the crossing over or takes a slice off what the
running lane has left of its quantum, also if that lane is denied its quadrants or drains (`Junction.lowers_step`).
Nothing that is done in between gives a slice back.  So the crossing changes hands within one quantum and a step
(`Junction.switches_within_quantum`).
-/
namespace Crossroads

open Act Junction

variable {j i : Junction} {l m : Lane} {op : Operation}

theorem Emergencies.isPending_of_count {em : Emergencies} (h : em.count = 0) (l : Lane) : em.isPending l = false := by
  have hnil : em.pending = [] := List.eq_nil_of_length_eq_zero h
  refine Bool.eq_false_iff.2 fun hl => ?_
  obtain ⟨ev, hev⟩ := Option.isSome_iff_exists.1 hl
  have hmem := mem_pending.2 ⟨l, hev⟩
  rw [hnil] at hmem
  cases hmem

theorem runOn_readmitEmergencies_calm (h : j.emergencies.count = 0) : readmitEmergencies.runOn j = (.ok (), j) := by
  have hlane : ∀ l, (readmitEmergency l).runOn j = (.ok false, j) := fun l => by
    unfold readmitEmergency
    rw [runOn_bind_of_ok (runOn_get j), Emergencies.isPending_of_count h]
    rfl
  rw [readmitEmergencies, discard_eq, runOn_bind_of_ok (runOn_collectLanes_none hlane _)]
  rfl

namespace Junction

/-! ## What is left of a quantum -/

theorem remaining_of_runs (h : j.Runs l) : j.remaining = j.settings.timeQuantum - j.scheduler.sliceCount := by
  have hmem : l ∈ j.runningLanes := List.mem_filter.2 ⟨l.mem_all, decide_eq_true h⟩
  exact if_neg (List.ne_nil_of_mem hmem)

theorem remaining_eq_zero (h : ∀ l, ¬ j.Runs l) : j.remaining = 0 := by
  have hnil : j.runningLanes = [] := List.filter_eq_nil_iff.2 fun l _ hl => h l (of_decide_eq_true hl)
  exact if_pos hnil

theorem remaining_le_sub (j : Junction) : j.remaining ≤ j.settings.timeQuantum - j.scheduler.sliceCount := by
  unfold remaining
  split
  · exact Nat.zero_le _
  · exact Nat.le_refl _

/-- **What recedes gives no slice back.** -/
theorem Recedes.remaining_le (h : j.Recedes i) : i.remaining ≤ j.remaining := by
  by_cases hruns : ∃ l, i.Runs l
  · obtain ⟨l, hl⟩ := hruns
    rw [remaining_of_runs hl, remaining_of_runs (h.runs l hl), h.settings]
    exact Nat.sub_le_sub_left h.sliceCount _
  · rw [remaining_eq_zero (not_exists.1 hruns)]
    exact Nat.zero_le _

/-! ## Steps while a lane is ready -/

/-- The policy does not preempt, no emergency is pending, and some lane is ready. -/
structure Contested (j : Junction) : Prop where
  policy : j.scheduler.policy.isPreemptive = false
  calm : j.emergencies.count = 0
  ready : ∃ l, (j.lanes.get l).state = .ready

instance : Decidable j.Contested :=
  decidable_of_iff (j.scheduler.policy.isPreemptive = false ∧ j.emergencies.count = 0 ∧
      ∃ l ∈ Lane.all, (j.lanes.get l).state = .ready)
    ⟨fun ⟨hp, hc, l, _, hl⟩ => ⟨hp, hc, l, hl⟩, fun ⟨hp, hc, l, hl⟩ => ⟨hp, hc, l, l.mem_all, hl⟩⟩

theorem Contested.not_due (h : j.Contested) (ev : EmergencyEvent) : ¬ j.Due ev := fun hdue => by
  have hpending : j.emergencies.isPending ev.lane = true := by
    rw [Emergencies.isPending, hdue.pending]
    rfl
  rw [Emergencies.isPending_of_count h.calm] at hpending
  cases hpending

theorem Contested.choice_ne_none (h : j.Contested) : j.choice ≠ none := by
  obtain ⟨l, hl⟩ := h.ready
  obtain ⟨best, hbest⟩ := exists_leastReady hl j.scheduler.policy j.settings.policyParams
  rw [choice, Policy.choose_of_not_preemptive h.policy, hbest]
  exact nofun

/-- A contested pass hands the crossing over or keeps a lane within its quantum. -/
theorem Contested.judges {d : Decision} {count : Nat} (h : j.Contested) (hd : j.Judges d count) :
    d.isSwitch = true ∨ ∃ m, d = .keep m ∧ j.Runs m ∧ j.scheduler.sliceCount < j.settings.timeQuantum ∧
      count = j.scheduler.sliceCount := by
  cases hd with
  | emergencyRuns hdue _ | emergency hdue _ => exact absurd hdue (h.not_due _)
  | withinQuantum _ hr _ hlt => exact .inr ⟨_, rfl, hr, hlt, rfl⟩
  | chosen => exact .inl rfl
  | unchallenged _ _ _ hchoice | idle _ _ hchoice => exact absurd hchoice h.choice_ne_none

theorem AsksTo.scheduler_eq (h : j.AsksTo l true i) :
    i.scheduler = j.scheduler ∧ (i.lanes.get l).state = (j.lanes.get l).state := by
  cases h with
  | held => exact ⟨rfl, rfl⟩
  | granted a n => exact ⟨rfl, (congrArg Approach.state (PerLane.get_set_self _ _ _)).trans rfl⟩

theorem AsksTo.blocked (h : j.AsksTo l false i) : (i.lanes.get l).state = .blocked := by
  cases h with
  | denied a n => exact congrArg Approach.state (PerLane.get_set_self _ _ _)

/-- **A lane that keeps the crossing uses a slice**, unless it is denied its quadrants and leaves the crossing. -/
theorem serveLane_lowers {served : Option SliceRecord × Bool} (hr : j.Runs m) (hone : ∀ l, j.Runs l → l = m)
    (hcurrent : j.scheduler.current = some m) (hc : j.traffic.Cached)
    (hn : j.config.quadrantsPerCrossing ≤ j.allocator.total) (h : (serveLane m).runOn j = (.ok served, i)) :
    (∀ l, ¬ i.Runs l) ∨ j.scheduler.sliceCount + 1 ≤ i.scheduler.sliceCount := by
  cases serveLane_servesTo h with
  | @crossed record j₁ j₂ j₃ _ hletIn hslice hcomplete hrelease =>
    obtain ⟨hscheduler, hstate⟩ := (admitLane_asksTo hn hletIn).scheduler_eq
    have ht := (admits_quiet.admitLane m).traffic_eq hletIn
    have hr₁ : j₁.Runs m := hstate.trans hr
    rw [runOn_executeSlice hr₁ (cached_lane (ht ▸ hc) m)] at hslice
    cases hslice
    have hcount : (j₁.sliced m).scheduler.sliceCount = j.scheduler.sliceCount + 1 := by
      rw [sliced, hscheduler, if_pos hcurrent]
    have hafter := trans_of Recedes ((completeServed_recedes m _).of_runOn hcomplete)
      ((admits_recedes.releaseLane m).of_runOn hrelease)
    exact .inr (hcount ▸ hafter.sliceCount)
  | denied hletIn =>
    have hreced := (admits_recedes.admitLane m).of_runOn hletIn
    refine .inl fun l hl => ?_
    rw [hone l (hreced.runs l hl), Runs, (admitLane_asksTo hn hletIn).blocked] at hl
    cases hl

/-- A step that is made with no emergency pending: a pass, the lane it decides for, and a sweep if one is due. -/
theorem step_of_calm (he : j.Exclusive) (hl : j.Linked) (hp : j.paused = false) (hcalm : j.emergencies.count = 0) :
    ∃ clock served k resolutions i,
      (serveDecided j.decision.lane).runOn { j.passed with tick := j.tick + 1, clock := clock } = (.ok served, k) ∧
        (sweepEvery (j.tick + 1)).runOn k = (.ok resolutions, i) ∧
          Operation.step.runOn j = (.ok (.outcome (.ran j.decision served.1 served.2 resolutions)), i) := by
  obtain ⟨outcome, i, hrun, hstep⟩ := Operation.runOn_of_orderly .step step_orderly rfl nofun he hl
  let j₁ : Junction := { j with tick := j.tick + 1 }
  have hpass : scheduleNext.runOn j₁ = (.ok j.decision, { j.passed with tick := j.tick + 1 }) :=
    runOn_scheduleNext (j := j₁) ⟨he.one, he.count⟩ hl
  unfold step at hrun
  rw [runOn_bind_of_ok (runOn_get j), if_neg (by rw [hp]; exact nofun)] at hrun
  obtain ⟨tick, _, htick, hrun⟩ := runOn_bind_eq_ok.1 hrun
  cases htick
  rw [runOn_bind_of_ok (runOn_readmitEmergencies_calm (j := j₁) hcalm), runOn_bind_of_ok hpass,
    runOn_bind_of_ok (runOn_payOverhead _ _)] at hrun
  obtain ⟨served, k, hserve, hrun⟩ := runOn_bind_eq_ok.1 hrun
  obtain ⟨resolutions, _, hsweep, hrun⟩ := runOn_bind_eq_ok.1 hrun
  cases hrun
  exact ⟨_, served, k, resolutions, i, hserve, hsweep, hstep⟩

theorem serveDecided_lowers {k : Junction} {served : Option SliceRecord × Bool} (he : j.Exclusive)
    (hc : j.traffic.Cached) (hn : j.config.quadrantsPerCrossing ≤ j.allocator.total) (hr : j.Runs m)
    (hlt : j.scheduler.sliceCount < j.settings.timeQuantum) (hd : j.decision = .keep m)
    (hcount : j.passed.scheduler.sliceCount = j.scheduler.sliceCount) {tick clock : Nat}
    (h : (serveDecided j.decision.lane).runOn { j.passed with tick := tick, clock := clock } = (.ok served, k)) :
    k.remaining < j.remaining := by
  -- the pass leaves the lanes and the count, so the lane that keeps the crossing is served as it stands
  have hlanes : j.passed.lanes = j.lanes := by
    show j.decision.lane.elim j.lanes j.handedTo = j.lanes
    rw [hd]
    exact he.handedTo_eq hr
  have hcurrent : j.passed.scheduler.current = some m := by
    show j.decision.lane.or j.scheduler.current = some m
    rw [hd]
    rfl
  have hone : ∀ l, j.passed.Runs l → l = m := fun l hl => by
    rw [Runs, hlanes] at hl
    exact he.one l m hl hr
  have hr' : j.passed.Runs m := by rwa [Runs, hlanes]
  have hc' : j.passed.traffic.Cached := by
    show (Traffic.mk (j.passed.lanes.map Approach.traffic) _ _ _ _ _).Cached
    rw [hlanes]
    exact hc
  have hsettings : k.settings = j.settings := ((serveDecided_recedes _).of_runOn h).settings
  rw [hd] at h
  rw [remaining_of_runs hr]
  have hserved := serveLane_lowers (j := { j.passed with tick := tick, clock := clock }) hr' hone hcurrent hc' hn h
  rcases hserved with hnone | hslice
  · rw [remaining_eq_zero hnone]
    exact Nat.sub_pos_of_lt hlt
  · have hle := k.remaining_le_sub
    have hslice : j.passed.scheduler.sliceCount + 1 ≤ k.scheduler.sliceCount := hslice
    rw [hsettings] at hle
    omega

/-- **A contested step hands the crossing over, or leaves less of the quantum.** -/
theorem lowers_step (he : j.Exclusive) (hl : j.Linked) (ht : j.traffic.Tidy)
    (hn : j.config.quadrantsPerCrossing ≤ j.allocator.total) (hp : j.paused = false) (hcontest : j.Contested) :
    ∃ d, Operation.decided .step j = some d ∧
      (d.isSwitch = true ∨ (Operation.next j .step).remaining < j.remaining) := by
  obtain ⟨_, served, k, resolutions, i, hserve, hsweep, hstep⟩ := step_of_calm he hl hp hcontest.calm
  refine ⟨j.decision, by rw [Operation.decided, hstep], ?_⟩
  have hnext : Operation.next j .step = i := congrArg Prod.snd hstep
  rw [hnext]
  refine (hcontest.judges (judges_decision ht.emergencies hl)).imp_right ?_
  rintro ⟨m, hd, hr, hlt, hcount⟩
  have hswept := ((sweeps_recedes.sweepEvery (j.tick + 1)).of_runOn hsweep).remaining_le
  exact Nat.lt_of_le_of_lt hswept (serveDecided_lowers he ht.cached hn hr hlt hd hcount hserve)

end Junction

/-! ## Runs -/

namespace Operation

/-- What may be done in a run: passes are made in steps only, and no state is set by hand. -/
def Stepwise (op : Operation) : Prop := op ≠ .schedule ∧ ∀ l s, op ≠ .setState l s

/-- What is done in a run in which every step is contested. -/
def Challenges (j : Junction) (op : Operation) : Prop := op.Stepwise ∧ (op = .step → j.paused = false → j.Contested)

theorem not_runs_setPolicy (p : Policy) (j : Junction) (l : Lane) : ¬ ((setPolicy p).next j).Runs l := by
  rw [next_setPolicy, Runs, PerLane.get_map]
  exact Approach.stepAside_state_ne _

/-- **Nothing that is done between steps gives a slice back.** -/
theorem Stepwise.remaining_le (h : op.Stepwise) (hstep : op ≠ .step) : (op.next j).remaining ≤ j.remaining := by
  by_cases hb : op.Beside
  · exact (hb.recedes j).remaining_le
  · cases op with
    | step => exact absurd rfl hstep
    | schedule => exact absurd rfl h.1
    | setState l s => exact absurd rfl (h.2 l s)
    | setPolicy p =>
      rw [remaining_eq_zero (not_runs_setPolicy p j)]
      exact Nat.zero_le _
    | command c =>
      cases c with
      | setPolicy p =>
        rw [next_command_setPolicy, remaining_eq_zero (not_runs_setPolicy p j)]
        exact Nat.zero_le _
      | _ => exact absurd trivial hb
    | _ => exact absurd trivial hb

end Operation

namespace Junction

/-- As long as the crossing does not change hands, there is a slice left for every step. -/
theorem unpausedSteps_le_remaining : ∀ (ops : List Operation) {j : Junction},
    j.Reachable (fun op => ∀ l s, op ≠ .setState l s) → j.Along Operation.Challenges ops →
      (∀ d ∈ j.decisions ops, d.isSwitch = false) → j.unpausedSteps ops ≤ j.remaining
  | [], j, _, _, _ => Nat.zero_le _
  | op :: ops, j, h, ⟨⟨hop, hcontest⟩, hops⟩, hkept => by
    have ih := unpausedSteps_le_remaining ops (h.next hop.2) hops fun d hd =>
      hkept d (List.mem_append_right _ hd)
    rw [unpausedSteps]
    by_cases hmade : op = .step ∧ j.paused = false
    · obtain ⟨rfl, hp⟩ := hmade
      obtain ⟨he, hl⟩ := h.inOrder
      obtain ⟨d, hd, hlow⟩ := lowers_step he hl h.tidy h.enough hp (hcontest rfl hp)
      have hno : d.isSwitch = false := hkept d (List.mem_append_left _ (by rw [hd]; exact List.mem_cons_self))
      rcases hlow with hswitch | hlow
      · rw [hno] at hswitch
        cases hswitch
      · rw [if_pos ⟨rfl, hp⟩]
        omega
    · rw [if_neg hmade, Nat.zero_add]
      refine Nat.le_trans ih ?_
      by_cases hstep : op = .step
      · subst hstep
        have hp : j.paused = true := Bool.of_not_eq_false fun hp => hmade ⟨rfl, hp⟩
        rw [next_step_of_paused hp]
      · exact hop.remaining_le hstep

/-- **No lane keeps the crossing for ever.** If more steps are made than the quantum has slices while some lane is ready
at each of them, the policy does not preempt and no emergency is pending, one of them is a context switch, whatever
else is done in between. -/
theorem switches_within_quantum {ops : List Operation} (h : j.Reachable (fun op => ∀ l s, op ≠ .setState l s))
    (hops : j.Along Operation.Challenges ops) (hlong : j.settings.timeQuantum < j.unpausedSteps ops) :
    ∃ d ∈ j.decisions ops, d.isSwitch = true := by
  by_contra hnone
  have hkept : ∀ d ∈ j.decisions ops, d.isSwitch = false := fun d hd =>
    Bool.eq_false_iff.2 fun hs => hnone ⟨d, hd, hs⟩
  have hle := unpausedSteps_le_remaining ops h hops hkept
  have hrest := j.remaining_le
  omega

/-- The north keeps the crossing for its second slice while the south waits, and hands it over on the next step,
although one more vehicle came to the north. -/
theorem switches_within_quantum_south : ∃ j : Junction, ∃ ops : List Operation,
    j.Runs .north ∧ (j.decisions ops).map Decision.isSwitch = [false, true, true] ∧
      ∃ d ∈ j.decisions ops, d.isSwitch = true := by
  let b : Blueprint := { config := { initialPolicy := .priorityRoundRobin, timeQuantum := 2 } }
  let j₀ : Junction := b.assemble b.config 0
  let pre : List Operation := .replicate 6 (.arrive .north none) ++ [.step, .arrive .south none]
  let ops : List Operation := [.request .east 1, .step, .arrive .north none, .tickLane .south, .step, .step]
  have hbuilt : j₀.Reachable (fun op => ∀ l s, op ≠ .setState l s) := .built (b := b) rfl
  have hreach := hbuilt.after pre (by simp [pre])
  have hops : (j₀.after pre).Along Operation.Challenges ops := by
    simp only [ops, Along, Operation.Challenges, Operation.Stepwise, ne_eq, reduceCtorEq, not_false_eq_true,
      implies_true, and_self, IsEmpty.forall_iff, forall_const, true_and, and_true]
    exact ⟨fun _ => by decide +kernel, fun _ => by decide +kernel, fun _ => by decide +kernel⟩
  exact ⟨_, ops, by decide +kernel, by decide +kernel, switches_within_quantum hreach hops (by decide +kernel)⟩

end Junction
end Crossroads
