import Crossroads.Proofs.Exclusion.Runs
import Crossroads.Proofs.Traffic.Quiet
/-!
# What a pass decides

A pass of a linked junction cannot fail, and its decision can be read off the junction before it
(`Junction.decision`): the due emergency goes first, then a lane within its quantum, then the lane that the policy
chooses.  The lane of the decision is alone in the crossing afterwards, and a running lane that made room for it falls
back to the state it yields to (`runOn_scheduleNext`).
-/
namespace Crossroads

open Act

variable {j : Junction} {l m target : Lane} {source : Option Lane} {forced : Bool} {a : Approach}

/-! ## Entering and leaving the crossing -/

namespace Approach

/-- The lane out of the crossing: one that runs falls back to the state it yields to. -/
def stepAside (a : Approach) : Approach := if a.state = .running then a.enter a.yieldState else a

theorem stepAside_of_ne (h : a.state ≠ .running) : a.stepAside = a := if_neg h

theorem stepAside_of_running (h : a.state = .running) : a.stepAside = a.enter a.yieldState := if_pos h

theorem stepAside_state_ne (a : Approach) : a.stepAside.state ≠ .running := by
  unfold stepAside
  split
  · exact yieldState_ne_running a
  · assumption

theorem stepAside_queue (a : Approach) : a.stepAside.queue = a.queue := by
  unfold stepAside
  split <;> rfl

theorem enter_running_of_running (h : a.state = .running) : a.enter .running = a := by
  cases a
  cases h
  simp [enter]

theorem forceRunning_eq_enter (a : Approach) : a.forceRunning = a.enter .running := by
  unfold forceRunning
  by_cases h : a.state = .running
  · rw [if_pos h, enter_running_of_running h]
  · rw [if_neg h]
    simp [enter, h]

end Approach

namespace Junction

/-- The lanes with one of them in the crossing and the others out of it. -/
def handedTo (j : Junction) (target : Lane) : PerLane Approach :=
  .ofFn fun l => if l = target then (j.lanes.get l).enter .running else (j.lanes.get l).stepAside

theorem handedTo_get_self (j : Junction) (l : Lane) : (j.handedTo l).get l = (j.lanes.get l).enter .running := by
  rw [handedTo, PerLane.get_ofFn, if_pos rfl]

theorem handedTo_get_of_ne (j : Junction) (h : m ≠ l) : (j.handedTo l).get m = (j.lanes.get m).stepAside := by
  rw [handedTo, PerLane.get_ofFn, if_neg h]

theorem Exclusive.handedTo_eq (he : j.Exclusive) (hr : j.Runs l) : j.handedTo l = j.lanes := by
  refine PerLane.ext_get fun m => ?_
  by_cases hm : m = l
  · rw [hm, handedTo_get_self]
    exact Approach.enter_running_of_running hr
  · rw [handedTo_get_of_ne _ hm]
    exact Approach.stepAside_of_ne fun h => hm (he.one m l h hr)

theorem set_enter_eq_handedTo {lanes : PerLane Approach} (hself : lanes.get l = j.lanes.get l)
    (hothers : ∀ m, m ≠ l → lanes.get m = (j.lanes.get m).stepAside) :
    lanes.set l ((lanes.get l).enter .running) = j.handedTo l := by
  refine PerLane.ext_get fun m => ?_
  by_cases hm : m = l
  · rw [hm, PerLane.get_set_self, hself, handedTo_get_self]
  · rw [PerLane.get_set_of_ne _ _ hm, hothers m hm, handedTo_get_of_ne _ hm]

def switchedTo (j : Junction) (target : Lane) : Junction :=
  { j with
    lanes := j.handedTo target
    scheduler := { j.scheduler with
      current := some target, sliceCount := 0, contextSwitches := j.scheduler.contextSwitches + 1 }
    metrics := j.metrics.recordContextSwitch j.settings.contextSwitchMs }

theorem runs_of_runs_switchedTo (h : (j.switchedTo target).Runs l) : l = target := by
  by_contra hne
  have hstate : ((j.handedTo target).get l).state = .running := h
  rw [handedTo_get_of_ne _ hne] at hstate
  exact Approach.stepAside_state_ne _ hstate

theorem exclusive_switchedTo (hcount : j.monitor.count = 0) (target : Lane) : (j.switchedTo target).Exclusive where
  one _ _ hl hm := (runs_of_runs_switchedTo hl).trans (runs_of_runs_switchedTo hm).symm
  count := hcount

end Junction

open Junction

theorem runOn_demote_eq (l : Lane) (j : Junction) :
    (demote l).runOn j = (.ok (), { j with lanes := j.lanes.set l (j.lanes.get l).stepAside }) := by
  unfold demote
  rw [runOn_bind_of_ok (runOn_get j)]
  by_cases h : (j.lanes.get l).state = .running
  · rw [if_pos h, runOn_tryOnLane, Approach.transition_yield l (.inl h), Approach.stepAside_of_running h]
  · rw [if_neg h, Approach.stepAside_of_ne h, PerLane.set_get]
    rfl

/-- A forced lane enters the crossing from any state, and a ready one enters it anyway. -/
theorem runOn_promote_eq (h : forced = true ∨ (j.lanes.get l).state = .ready) :
    (promote l forced).runOn j = (.ok true, { j with lanes := j.lanes.set l ((j.lanes.get l).enter .running) }) := by
  unfold promote
  cases forced with
  | true =>
    rw [if_pos rfl, runOn_bind_of_ok (runOn_onLane ..), Approach.forceRunning_eq_enter]
    rfl
  | false =>
    have hready : (j.lanes.get l).state = .ready := h.resolve_left Bool.false_ne_true
    have hrun : (j.lanes.get l).transition l .running = .ok ((j.lanes.get l).enter .running) := by
      rw [Approach.transition, hready]
      rfl
    rw [if_neg Bool.false_ne_true, runOn_bind_of_ok (runOn_get j), if_pos hready,
      runOn_bind_of_ok (by rw [runOn_tryOnLane, hrun])]
    rfl

/-- **A switch hands the crossing over** if its source is the lane that runs and its target is ready or forced. -/
theorem runOn_contextSwitch (hcount : j.monitor.count = 0) (hsource : ∀ l, j.Runs l → source = some l)
    (htarget : forced = true ∨ (j.lanes.get target).state = .ready) :
    (contextSwitch source target forced).runOn j = (.ok true, j.switchedTo target) := by
  -- what follows the demotion, from lanes of which none but the target may still run
  have hrest : ∀ lanes : PerLane Approach, lanes.get target = j.lanes.get target →
      (∀ l, l ≠ target → lanes.get l = (j.lanes.get l).stepAside) →
      (takeOver target forced).runOn { j with lanes := lanes } = (.ok true, j.switchedTo target) := by
    intro lanes hself hothers
    unfold takeOver
    rw [runOn_bind_of_ok (runOn_promote_eq (htarget.imp_right fun h => (congrArg Approach.state hself).trans h)),
      if_pos rfl]
    dsimp only
    rw [set_enter_eq_handedTo hself hothers]
    exact runOn_bind_of_ok (runOn_checkMutualExclusion (exclusive_switchedTo hcount target))
  rw [contextSwitch_eq]
  cases hs : source.filter (· ≠ target) with
  | some l =>
    obtain ⟨hl, hne⟩ := Option.filter_eq_some_iff.1 hs
    refine (runOn_bind_of_ok (runOn_demote_eq l j)).trans (hrest _ (PerLane.get_set_of_ne _ _ ?_) fun m hm => ?_)
    · exact Ne.symm (of_decide_eq_true hne)
    · by_cases hml : m = l
      · rw [hml, PerLane.get_set_self]
      · rw [PerLane.get_set_of_ne _ _ hml, Approach.stepAside_of_ne]
        intro hr
        rw [hl] at hsource
        exact hml (Option.some.inj (hsource m hr)).symm
  | none =>
    refine hrest j.lanes rfl fun m hm => (Approach.stepAside_of_ne fun hr => ?_).symm
    rw [hsource m hr, Option.filter_some, if_pos (decide_eq_true hm)] at hs
    cases hs

/-! ## Passes -/

namespace Junction

/-- The lane that a pass sees running. -/
def runningLane (j : Junction) : Option Lane := j.snapshot.firstRunning.map (·.lane)

/-- The lane that the policy asks for; it is not asked while the running lane is within its quantum. -/
def asked (j : Junction) : Option Lane :=
  if j.runningLane.isSome && j.withinQuantum then none
  else j.scheduler.policy.choose j.settings.policyParams j.snapshot

def decision (j : Junction) : Decision :=
  match j.dueEmergency with
  | some event => if j.Runs event.lane then .keep event.lane else .switch j.scheduler.current event.lane true
  | none =>
    match j.asked with
    | some target => .switch j.scheduler.current target false
    | none => j.runningLane.elim .idle .keep

/-- Whether a pass lets the quantum of the running lane begin anew. -/
def renews (j : Junction) : Bool :=
  j.dueEmergency.isNone && j.decision.lane.isSome && j.settings.timeQuantum ≤ j.scheduler.sliceCount

def passed (j : Junction) : Junction :=
  { j with
    lanes := j.decision.lane.elim j.lanes j.handedTo
    scheduler := { j.scheduler with
      tick := j.scheduler.tick + 1
      readyQueue := if j.dueEmergency.isSome then j.scheduler.readyQueue else Scheduler.readyByArrival j.snapshot
      current := j.decision.lane.or j.scheduler.current
      sliceCount := if j.decision.isSwitch || j.renews then 0 else j.scheduler.sliceCount
      contextSwitches := j.scheduler.contextSwitches + j.decision.isSwitch.toNat }
    metrics := if j.decision.isSwitch then j.metrics.recordContextSwitch j.settings.contextSwitchMs else j.metrics }

theorem mem_filter_snapshot {s : LaneSnapshot} {state : LaneState} :
    s ∈ j.snapshot.lanes.toList.filter (fun s => s.state = state) ↔
      ∃ l, (j.lanes.get l).snapshot l = s ∧ (j.lanes.get l).state = state := by
  rw [PerLane.toList_eq, List.mem_filter, List.mem_map, decide_eq_true_eq]
  constructor
  · rintro ⟨⟨l, -, rfl⟩, hs⟩
    rw [snapshot, laneSnapshots, PerLane.get_ofFn] at hs ⊢
    exact ⟨l, rfl, hs⟩
  · rintro ⟨l, rfl, hl⟩
    exact ⟨⟨l, Lane.mem_all l, PerLane.get_ofFn _ l⟩, hl⟩

theorem runs_of_runningLane (h : j.runningLane = some l) : j.Runs l := by
  obtain ⟨s, hs, rfl⟩ := Option.map_eq_some_iff.1 h
  obtain ⟨m, rfl, hm⟩ := mem_filter_snapshot.1 (List.mem_of_head? hs)
  exact hm

theorem Linked.runningLane_eq (hl : j.Linked) (hr : j.Runs l) : j.runningLane = some l := by
  refine Routine.firstRunning_eq (c := j.scheduler.current) (fun m => ?_) (fun m hm => hl m ?_) ?_
  · rw [snapshot, laneSnapshots, PerLane.get_ofFn]
    rfl
  · rw [snapshot, laneSnapshots, PerLane.get_ofFn] at hm
    exact hm
  · rw [snapshot, laneSnapshots, PerLane.get_ofFn]
    exact hr

theorem not_runs_of_runningLane (hl : j.Linked) (h : j.runningLane = none) (l : Lane) : ¬ j.Runs l := fun hr => by
  rw [hl.runningLane_eq hr] at h
  cases h

/-- **A policy chooses among the ready lanes.** -/
theorem ready_of_choose {p : Policy} {params : PolicyParams} (h : p.choose params j.snapshot = some l) :
    (j.lanes.get l).state = .ready := by
  have hbest : ∃ best, p.leastReady params j.snapshot = some best ∧ best.lane = l := by
    unfold Policy.choose at h
    split at h
    · cases h
    · rename_i best hbest
      split at h
      · split at h
        · cases h
        · exact ⟨best, hbest, Option.some.inj h⟩
      · exact ⟨best, hbest, Option.some.inj h⟩
  obtain ⟨best, hleast, rfl⟩ := hbest
  obtain ⟨m, rfl, hm⟩ := mem_filter_snapshot.1 (mem_of_firstLeast? hleast)
  exact hm

theorem ready_of_asked (h : j.asked = some l) : (j.lanes.get l).state = .ready := by
  unfold asked at h
  split at h
  · cases h
  · exact ready_of_choose h

end Junction

theorem runOn_preempt (hcount : j.monitor.count = 0) (hl : j.Linked) (target : Lane) :
    (preempt target).runOn j = if j.Runs target
      then (.ok (.keep target), { j with scheduler := { j.scheduler with current := some target } })
      else (.ok (.switch j.scheduler.current target true), j.switchedTo target) := by
  unfold preempt
  rw [runOn_bind_of_ok (runOn_get j)]
  by_cases h : (j.lanes.get target).state = .running
  · rw [if_pos h, if_pos (show j.Runs target from h)]
    rfl
  · rw [if_neg h, if_neg (show ¬ j.Runs target from h), discard_eq, bind_assoc,
      runOn_bind_of_ok (runOn_contextSwitch hcount hl (.inl rfl))]
    rfl

theorem runOn_keepRunning (running : Option Lane) (j : Junction) :
    (keepRunning running).runOn j = (.ok (running.elim .idle .keep), { j with scheduler := { j.scheduler with
      sliceCount := if running.isSome && j.settings.timeQuantum ≤ j.scheduler.sliceCount then 0
        else j.scheduler.sliceCount } }) := by
  cases running with
  | none => rfl
  | some l =>
    have hrun : (keepRunning (some l)).runOn j = (.ok (.keep l), { j with scheduler :=
      if j.settings.timeQuantum ≤ j.scheduler.sliceCount then { j.scheduler with sliceCount := 0 }
        else j.scheduler }) := rfl
    rw [hrun]
    by_cases h : j.settings.timeQuantum ≤ j.scheduler.sliceCount <;> simp [h]

theorem runOn_handOver (hcount : j.monitor.count = 0) (hl : j.Linked) (hr : (j.lanes.get target).state = .ready) :
    (handOver j.runningLane target).runOn j = (.ok (.switch j.scheduler.current target false), j.switchedTo target) := by
  have hsource : (j.runningLane.orElse fun _ => j.scheduler.current) = j.scheduler.current := by
    cases hrun : j.runningLane with
    | none => rfl
    | some l => exact (hl l (runs_of_runningLane hrun)).symm
  unfold handOver
  rw [runOn_bind_of_ok (runOn_get j)]
  dsimp only
  rw [hsource, runOn_bind_of_ok (runOn_contextSwitch hcount hl (.inr hr))]
  rfl

namespace Junction

/-! ## The decision, case by case -/

theorem decision_of_due {ev : EmergencyEvent} (h : j.dueEmergency = some ev) : j.decision =
    if j.Runs ev.lane then .keep ev.lane else .switch j.scheduler.current ev.lane true := by
  rw [decision, h]

theorem decision_of_asked (h : j.dueEmergency = none) (ha : j.asked = some target) :
    j.decision = .switch j.scheduler.current target false := by
  rw [decision, h, ha]

theorem decision_of_not_asked (h : j.dueEmergency = none) (ha : j.asked = none) :
    j.decision = j.runningLane.elim .idle .keep := by
  rw [decision, h, ha]

theorem mem_ready_snapshot (h : (j.lanes.get l).state = .ready) :
    (j.lanes.get l).snapshot l ∈ j.snapshot.ready := mem_filter_snapshot.2 ⟨l, rfl, h⟩

theorem exists_leastReady (h : (j.lanes.get l).state = .ready) (p : Policy) (params : PolicyParams) :
    ∃ best, p.leastReady params j.snapshot = some best := by
  refine Option.ne_none_iff_exists'.1 fun hnone => ?_
  have hmem := mem_ready_snapshot h
  rw [firstLeast?_eq_none_iff.1 hnone] at hmem
  cases hmem

/-- While no lane runs, every policy asks for some lane if one is ready. -/
theorem exists_asked (h : (j.lanes.get l).state = .ready) (hn : j.runningLane = none) :
    ∃ target, j.asked = some target := by
  have hfirst : j.snapshot.firstRunning = none := Option.map_eq_none_iff.1 hn
  obtain ⟨best, hbest⟩ := exists_leastReady h j.scheduler.policy j.settings.policyParams
  refine ⟨best.lane, ?_⟩
  rw [asked, hn, Option.isSome_none, Bool.false_and, if_neg Bool.false_ne_true, Policy.choose, hbest, hfirst]

end Junction

/-- **What a pass without an emergency comes to.** -/
theorem runOn_passByPolicy (hcount : j.monitor.count = 0) (hl : j.Linked) :
    passByPolicy.runOn j =
      (let i : Junction := { j with scheduler := { j.scheduler with
        readyQueue := Scheduler.readyByArrival j.snapshot } }
      match j.asked with
      | some target => (.ok (.switch j.scheduler.current target false), i.switchedTo target)
      | none => (keepRunning j.runningLane).runOn i) := by
  let i : Junction := { j with scheduler := { j.scheduler with readyQueue := Scheduler.readyByArrival j.snapshot } }
  show (if (j.runningLane.isSome && j.withinQuantum) = true then keepRunning j.runningLane
    else followChoice j.runningLane (j.scheduler.policy.choose j.settings.policyParams j.snapshot)).runOn i = _
  unfold asked
  split
  · rfl
  · cases hc : j.scheduler.policy.choose j.settings.policyParams j.snapshot with
    | none => rfl
    | some target =>
      have hready := ready_of_choose hc
      have hne : j.runningLane ≠ some target := fun h => by
        have hruns := runs_of_runningLane h
        rw [Runs, hready] at hruns
        cases hruns
      rw [followChoice, if_neg hne]
      exact runOn_handOver (j := i) hcount hl hready

/-- **What a pass comes to.** -/
theorem runOn_scheduleNext (he : j.Exclusive) (hl : j.Linked) : scheduleNext.runOn j = (.ok j.decision, j.passed) := by
  let i : Junction := { j with scheduler := { j.scheduler with tick := j.scheduler.tick + 1 } }
  show (serveDue j.dueEmergency).runOn i = _
  cases hdue : j.dueEmergency with
  | some ev =>
    have hd := decision_of_due hdue
    rw [serveDue, runOn_preempt (j := i) he.count hl]
    by_cases hr : j.Runs ev.lane
    · rw [if_pos hr] at hd
      rw [if_pos (show i.Runs ev.lane from hr), passed, renews, hd, hdue]
      simp [i, Decision.lane, Decision.isSwitch, he.handedTo_eq hr]
    · rw [if_neg hr] at hd
      rw [if_neg (show ¬ i.Runs ev.lane from hr), passed, renews, hd, hdue]
      rfl
  | none =>
    rw [serveDue, runOn_passByPolicy (j := i) he.count hl]
    cases ha : j.asked with
    | some target =>
      rw [show i.asked = some target from ha, passed, renews, decision_of_asked hdue ha, hdue]
      rfl
    | none =>
      have hd := decision_of_not_asked hdue ha
      rw [show i.asked = none from ha]
      dsimp only
      rw [runOn_keepRunning]
      cases hrun : j.runningLane with
      | none =>
        rw [hrun] at hd
        rw [show i.runningLane = none from hrun, passed, renews, hd, hdue]
        rfl
      | some l =>
        have hr := runs_of_runningLane hrun
        have hview : Scheduler.readyByArrival i.snapshot = Scheduler.readyByArrival j.snapshot := rfl
        rw [hrun] at hd
        rw [show i.runningLane = some l from hrun, passed, renews, hd, hdue, hview]
        simp [i, Decision.lane, Decision.isSwitch, he.handedTo_eq hr, hl l hr]

end Crossroads
