import Crossroads.Proofs.Counters.Time
import Crossroads.Proofs.Deadlock.Rounds
import Crossroads.Proofs.Steps.Admission
import Crossroads.Proofs.Steps.Quantum
import Crossroads.Proofs.Steps.SliceEffect
/-!
# Lane states keep in step with their queues

Between operations a lane that is ready or runs has vehicles, and a lane that waits has none, unless it gave way to a
deadlock (`Junction.inStep_after`).
-/
namespace Crossroads

open Act Junction

variable {j i i' k : Junction} {l m : Lane} {a b c : Approach} {op : Operation}

/-! ## Lanes -/

namespace Approach

/-- What the state of a lane says of its queue and its counts, also while a step is under way. -/
structure InStep (a : Approach) : Prop where
  cached : a.queueLength = a.queue.length
  fits : a.queue.length ≤ a.queue.capacity
  ready : a.state = .ready → 0 < a.queueLength
  running : a.state = .running → a.waitingTime = 0
  waiting : a.state = .waiting → a.queueLength = 0 → a.slicesConsumed = 0

/-- The lane runs without vehicles. -/
def Idles (a : Approach) : Prop := a.state = .running ∧ a.queueLength = 0

/-- The lane waits with vehicles. -/
def Stranded (a : Approach) : Prop := a.state = .waiting ∧ 0 < a.queueLength

instance : Decidable a.Stranded := inferInstanceAs (Decidable (_ ∧ _))

/-- What may become of a lane beside slices, forced switches and broken deadlocks. -/
structure Keeps (a b : Approach) : Prop where
  inStep : a.InStep → b.InStep
  stranded : b.Stranded → a.Stranded
  runs : b.state = .running → a.state = .running
  idles : b.Idles → a.Idles

theorem Keeps.refl (a : Approach) : a.Keeps a := ⟨id, id, id, id⟩

theorem Keeps.trans (h : a.Keeps b) (k : b.Keeps c) : a.Keeps c :=
  ⟨k.inStep ∘ h.inStep, h.stranded ∘ k.stranded, h.runs ∘ k.runs, h.idles ∘ k.idles⟩

theorem InStep.enter (h : a.InStep) {s : LaneState} (hs : s = .ready → 0 < a.queueLength) : (a.enter s).InStep where
  cached := h.cached
  fits := h.fits
  ready := hs
  running hr := by
    show (if s = .running ∧ a.state ≠ .running then 0 else a.waitingTime) = 0
    split
    · rfl
    · rename_i hne
      exact h.running (Classical.not_not.1 fun ha => hne ⟨hr, ha⟩)
  waiting hw h0 := if_pos ⟨hw, h0⟩

/-- A lane may leave the crossing, or wait, if its queue agrees. -/
theorem keeps_enter {s : LaneState} (hrun : s ≠ .running) (hready : s = .ready → 0 < a.queueLength)
    (hwait : s = .waiting → a.queueLength = 0) : a.Keeps (a.enter s) where
  inStep h := h.enter hready
  stranded h := absurd (hwait h.1) (Nat.ne_of_gt h.2)
  runs h := absurd h hrun
  idles h := absurd h.1 hrun

theorem keeps_enter_yieldState (a : Approach) : a.Keeps (a.enter a.yieldState) := by
  refine keeps_enter (yieldState_ne_running a) ?_ ?_
  · intro hready
    by_contra hq
    rw [yieldState, if_neg hq] at hready
    cases hready
  · intro hwait
    by_contra hq
    rw [yieldState, if_pos (Nat.pos_of_ne_zero hq)] at hwait
    cases hwait

theorem keeps_setQuadrants (a : Approach) (held asked : Nat) : a.Keeps (a.setQuadrants held asked) :=
  ⟨fun h => ⟨h.cached, h.fits, h.ready, h.running, h.waiting⟩, id, id, id⟩

theorem keeps_blockOn (a : Approach) (asked : Nat) : a.Keeps (a.blockOn asked) where
  inStep h := ⟨h.cached, h.fits, nofun, nofun, nofun⟩
  stranded h := by cases h.1
  runs := nofun
  idles h := by cases h.1

theorem keeps_stepAside (a : Approach) : a.Keeps a.stepAside := by
  unfold stepAside
  split
  · exact a.keeps_enter_yieldState
  · exact .refl a

theorem keeps_unblock (h : a.unblock l = .ok b) : a.Keeps b := by
  unfold unblock at h
  split at h
  · rename_i hb
    have hblocked : (a.setQuadrants a.allocatedQuadrants 0).state = .blocked := hb
    have hyield : (a.setQuadrants a.allocatedQuadrants 0).transition l
        (a.setQuadrants a.allocatedQuadrants 0).yieldState = .ok b := h
    rw [transition_yield l (.inr hblocked)] at hyield
    cases hyield
    exact (a.keeps_setQuadrants _ 0).trans (keeps_enter_yieldState _)
  · cases h
    exact .refl a

theorem keeps_turned (a : Approach) : a.Keeps a.turned := by
  unfold turned
  split
  · rename_i h
    exact keeps_enter nofun (fun _ => h.2) nofun
  · split
    · rename_i h
      exact keeps_enter nofun nofun fun _ => h.2
    · exact .refl a

theorem keeps_aged (a : Approach) : a.Keeps a.aged := by
  unfold aged
  split
  · rename_i hready
    exact ⟨fun h => ⟨h.cached, h.fits, h.ready, fun hr => (by cases hready.symm.trans hr), h.waiting⟩, id, id, id⟩
  · exact .refl a

theorem keeps_tick (h : a.tick l = .ok b) : a.Keeps b := by
  rw [tick_eq] at h
  cases h
  exact a.keeps_turned.trans a.turned.keeps_aged

theorem letIn_state_ne (a : Approach) (v : Vehicle) : (a.letIn v).state ≠ .waiting := by
  show (if a.state = .waiting then LaneState.ready else a.state) ≠ .waiting
  split
  · exact nofun
  · assumption

theorem keeps_letIn (h : a.queue.length < a.queue.capacity) (v : Vehicle) : a.Keeps (a.letIn v) := by
  have hne := a.letIn_state_ne v
  have hruns : (a.letIn v).state = .running → a.state = .running := by
    show (if a.state = .waiting then LaneState.ready else a.state) = .running → _
    split
    · exact nofun
    · exact id
  have hlen : (a.queue.vehicles ++ [v]).length = a.queue.length + 1 := List.length_append
  refine ⟨fun ha => ⟨hlen.symm, ?_, fun _ => Nat.succ_pos _, fun hr => ha.running (hruns hr), fun hw => absurd hw hne⟩,
    fun hs => absurd hs.1 hne, hruns, fun hi => absurd hi.2 (Nat.succ_ne_zero _)⟩
  exact Nat.le_trans (Nat.le_of_eq hlen) h

/-! ### Slices and victims -/

theorem InStep.crossedBy (h : a.InStep) (hr : a.state = .running) {startMs : Nat} {crossed rest : List Vehicle}
    (hq : a.queue.vehicles = crossed ++ rest) : (a.crossedBy startMs crossed rest).InStep where
  cached := rfl
  fits := by
    have hfits : a.queue.vehicles.length ≤ a.queue.capacity := h.fits
    rw [hq, List.length_append] at hfits
    exact Nat.le_trans (Nat.le_add_left _ _) hfits
  ready hs := by
    have hstate : (if rest = [] then LaneState.waiting else .running) = .ready := hs
    split at hstate <;> cases hstate
  running _ := h.running hr
  waiting _ h0 := if_pos (List.eq_nil_of_length_eq_zero h0)

theorem not_idles_crossedBy (a : Approach) (startMs : Nat) (crossed rest : List Vehicle) :
    ¬ (a.crossedBy startMs crossed rest).Idles ∧ ¬ (a.crossedBy startMs crossed rest).Stranded := by
  cases rest with
  | nil => exact ⟨fun h => (by cases h.1), fun h => absurd h.2 (Nat.lt_irrefl 0)⟩
  | cons v vs => exact ⟨fun h => Nat.succ_ne_zero _ h.2, fun h => (by cases h.1)⟩

theorem InStep.giveUp (h : a.InStep) : a.giveUp.InStep := ((a.keeps_setQuadrants 0 0).inStep h).enter nofun

/-- What is said of a lane between operations. -/
structure Settles (a : Approach) : Prop extends a.InStep where
  crossing : a.state = .running → 0 < a.queueLength

theorem InStep.settles (h : a.InStep) (hn : ¬ a.Idles) : a.Settles :=
  ⟨h, fun hr => Nat.pos_of_ne_zero fun h0 => hn ⟨hr, h0⟩⟩

theorem Settles.not_idles (h : a.Settles) : ¬ a.Idles := fun hi => absurd hi.2 (Nat.ne_of_gt (h.crossing hi.1))

theorem Settles.keeps (h : a.Settles) (k : a.Keeps b) : b.Settles :=
  (k.inStep h.toInStep).settles fun hi => h.not_idles (k.idles hi)

end Approach

/-! ## Actions -/

namespace Junction

/-- No lane comes into the crossing or is stranded, and the lanes stay in step. -/
structure Kept (j i : Junction) : Prop where
  lanes : ∀ l, (j.lanes.get l).Keeps (i.lanes.get l)
  current : i.scheduler.current = j.scheduler.current
  count : i.monitor.count = j.monitor.count

instance : IsPreorder Junction Kept where
  refl _ := ⟨fun _ => .refl _, rfl, rfl⟩
  trans _ _ _ h k := ⟨fun l => (h.lanes l).trans (k.lanes l), k.current.trans h.current, k.count.trans h.count⟩

theorem Kept.yields (h : j.Kept i) : j.Yields i := ⟨fun l => (h.lanes l).runs, h.current, h.count⟩

theorem Kept.of_eq (hl : i.lanes = j.lanes) (hc : i.scheduler.current = j.scheduler.current)
    (hm : i.monitor = j.monitor) : j.Kept i :=
  ⟨fun l => by rw [hl]; exact .refl _, hc, by rw [hm]⟩

theorem Kept.set_lane (h : (j.lanes.get l).Keeps b) : j.Kept { j with lanes := j.lanes.set l b } :=
  ⟨fun m => PerLane.rel_set (fun a => .refl a) j.lanes h m, rfl, rfl⟩

theorem admits_kept : Admits (Moves Kept) where
  toComposes := Moves.composes
  retry _ _ := .of_eq rfl rfl rfl
  release _ _ := .of_eq rfl rfl rfl
  note l held asked j := .set_lane ((j.lanes.get l).keeps_setQuadrants held asked)
  unblock _ := .of_lane fun _ _ h => .set_lane (Approach.keeps_unblock h)
  request _ _ _ := .of_eq rfl rfl rfl
  denial _ := .of_eq rfl rfl rfl
  block l asked j := .set_lane ((j.lanes.get l).keeps_blockOn asked)

end Junction

theorem nextTick_kept : nextTick.Moves Kept := fun _ => .of_eq rfl rfl rfl

theorem payOverhead_kept (d : Decision) : (payOverhead d).Moves Kept := fun j => by
  rw [runOn_payOverhead]
  exact .of_eq rfl rfl rfl

theorem completeServed_kept (l : Lane) (record : Option SliceRecord) : (completeServed l record).Moves Kept :=
  Moves.composes.completeServed
    (Moves.composes.completeEmergency (fun _ => .of_eq rfl rfl rfl) fun _ _ => .of_eq rfl rfl rfl) record

theorem tickLane_kept (l : Lane) : (tickLane l).Moves Kept :=
  Moves.composes.tickLane (.of_lane fun _ _ h => .set_lane (Approach.keeps_tick h))

theorem generateArrival_kept (l : Lane) (emergency : Option EmergencyKind) :
    (generateArrival l emergency).Moves Kept := by
  intro j
  rw [runOn_generateArrival]
  cases h : (j.lanes.get l).enqueue (j.incoming emergency) with
  | error e => exact .of_eq rfl rfl rfl
  | ok a =>
    obtain ⟨hroom, rfl⟩ := Approach.enqueue_eq_ok_iff.1 h
    exact ⟨(Kept.set_lane (Approach.keeps_letIn hroom _)).lanes, rfl, rfl⟩

/-! ## The parts of a step -/

namespace Junction

/-- In the middle of a step of a junction: the lanes are in step, none is stranded that was not, and no lane but the
target runs without vehicles. -/
structure Midway (j : Junction) (target : Option Lane) (i : Junction) : Prop where
  inStep : ∀ l, (i.lanes.get l).InStep
  stranded : ∀ l, (i.lanes.get l).Stranded → (j.lanes.get l).Stranded
  idles : ∀ l, (i.lanes.get l).Idles → target = some l

theorem Midway.start (h : ∀ l, (j.lanes.get l).Settles) : j.Midway none j where
  inStep l := (h l).toInStep
  stranded _ := id
  idles l hi := absurd hi (h l).not_idles

theorem Midway.kept {target : Option Lane} (h : j.Midway target i) (k : i.Kept i') : j.Midway target i' where
  inStep l := (k.lanes l).inStep (h.inStep l)
  stranded l := h.stranded l ∘ (k.lanes l).stranded
  idles l := h.idles l ∘ (k.lanes l).idles

/-- **A pass leaves no lane without vehicles in the crossing but the one it decides for.** -/
theorem Midway.passed (h : j.Midway none i) : j.Midway i.decision.lane i.passed := by
  have hlanes : i.passed.lanes = i.decision.lane.elim i.lanes i.handedTo := rfl
  cases hd : i.decision.lane with
  | none =>
    rw [hd] at hlanes
    exact h.kept ⟨fun l => by rw [hlanes]; exact .refl _, by rw [Junction.passed, hd]; rfl, rfl⟩
  | some m =>
    rw [hd] at hlanes
    have hothers : ∀ l, l ≠ m → (i.lanes.get l).Keeps (i.passed.lanes.get l) := fun l hl => by
      rw [hlanes, Option.elim_some, handedTo_get_of_ne _ hl]
      exact (i.lanes.get l).keeps_stepAside
    have hself : i.passed.lanes.get m = (i.lanes.get m).enter .running := by
      rw [hlanes, Option.elim_some, handedTo_get_self]
    refine ⟨fun l => ?_, fun l hs => ?_, fun l hi => ?_⟩ <;> by_cases hl : l = m
    · rw [hl, hself]
      exact (h.inStep m).enter fun hready => by cases hready
    · exact (hothers l hl).inStep (h.inStep l)
    · rw [hl, hself] at hs
      cases hs.1
    · exact h.stranded l ((hothers l hl).stranded hs)
    · rw [hl]
    · cases h.idles l ((hothers l hl).idles hi)

/-- A slice sends a lane without vehicles out of the crossing. -/
theorem Midway.sliced (h : j.Midway (some l) i) (hr : i.Runs l) : j.Midway none (i.sliced l) := by
  have hcross := crossesTo_sliced hr (h.inStep l).cached
  obtain ⟨hidle, hstranded⟩ := Approach.not_idles_crossedBy (i.lanes.get l) i.clock
    ((i.lanes.get l).queue.vehicles.take (i.batch l)) ((i.lanes.get l).queue.vehicles.drop (i.batch l))
  refine ⟨fun m => ?_, fun m hs => ?_, fun m hi => ?_⟩ <;> by_cases hm : m = l
  · rw [hm, hcross.lane]
    exact (h.inStep l).crossedBy hr hcross.queue
  · rw [hcross.others m hm]
    exact h.inStep m
  · rw [hm, hcross.lane] at hs
    exact absurd hs hstranded
  · rw [hcross.others m hm] at hs
    exact h.stranded m hs
  · rw [hm, hcross.lane] at hi
    exact absurd hi hidle
  · rw [hcross.others m hm] at hi
    exact absurd (Option.some.inj (h.idles m hi)).symm hm

theorem Midway.served (h : j.Midway (some l) i) (hl : ¬ (i.lanes.get l).Idles) : j.Midway none i :=
  ⟨h.inStep, h.stranded, fun m hi => absurd (Option.some.inj (h.idles m hi) ▸ hi) hl⟩

end Junction

/-- **A lane that is let cross does not stay in the crossing without vehicles**: it is denied its quadrants and blocked,
or it drains and waits. -/
theorem serveLane_midway {served : Option SliceRecord × Bool} (h : j.Midway (some l) i)
    (hn : i.config.quadrantsPerCrossing ≤ i.allocator.total) (hrun : (serveLane l).runOn i = (.ok served, k)) :
    j.Midway none k := by
  cases serveLane_servesTo hrun with
  | @crossed record i₁ i₂ i₃ _ hletIn hslice hcomplete hrelease =>
    have h₁ := h.kept ((admits_kept.admitLane l).of_runOn hletIn)
    have h₂ : j.Midway none i₂ := by
      by_cases hr : i₁.Runs l
      · rw [runOn_executeSlice hr (h₁.inStep l).cached] at hslice
        cases hslice
        exact h₁.sliced hr
      · rw [runOn_executeSlice_of_not_runs hr] at hslice
        cases hslice
        exact h₁.served fun hi => hr hi.1
    exact (h₂.kept ((completeServed_kept l record).of_runOn hcomplete)).kept
      ((admits_kept.releaseLane l).of_runOn hrelease)
  | denied hletIn =>
    refine (h.kept ((admits_kept.admitLane l).of_runOn hletIn)).served fun hi => ?_
    rw [Approach.Idles, (admitLane_asksTo hn hletIn).blocked] at hi
    cases hi.1

theorem serveDecided_midway {target : Option Lane} {served : Option SliceRecord × Bool} (h : j.Midway target i)
    (hn : i.config.quadrantsPerCrossing ≤ i.allocator.total) (hrun : (serveDecided target).runOn i = (.ok served, k)) :
    j.Midway none k := by
  cases target with
  | none =>
    cases hrun
    exact h
  | some l => exact serveLane_midway h hn hrun

/-! ## Operations -/

namespace Junction

/-- What an operation leaves: the lanes are settled, and a lane that is stranded was so before or gave way. -/
structure Settled (j : Junction) (rs : List Resolution) (i : Junction) : Prop where
  settles : ∀ l, (i.lanes.get l).Settles
  stranded : ∀ l, (i.lanes.get l).Stranded → (j.lanes.get l).Stranded ∨ l ∈ rs.map (·.victim)

theorem Midway.settled (h : j.Midway none i) (rs : List Resolution) : j.Settled rs i where
  settles l := (h.inStep l).settles fun hi => by cases h.idles l hi
  stranded l hs := .inl (h.stranded l hs)

theorem Settled.kept {rs : List Resolution} (h : j.Settled rs i) (k : i.Kept i') : j.Settled rs i' where
  settles l := (h.settles l).keeps (k.lanes l)
  stranded l := h.stranded l ∘ (k.lanes l).stranded

/-- **Only its victims are stranded by a sweep.** -/
theorem Midway.swept {rs : List Resolution} (h : j.Midway none i) (hr : Rounds i rs k) : j.Settled rs k where
  settles l := by
    rw [hr.lanes_get l]
    split
    · exact (h.inStep l).giveUp.settles fun hi => by cases hi.1
    · exact (h.settled rs).settles l
  stranded l hs := by
    rw [hr.lanes_get l] at hs
    split at hs
    · rename_i hv
      exact .inr hv
    · exact .inl (h.stranded l hs)

end Junction

theorem sweepEvery_settled {tick : Nat} {rs : List Resolution} (h : j.Midway none i)
    (hrun : (sweepEvery tick).runOn i = (.ok rs, k)) : j.Settled rs k := by
  cases sweepEvery_sweepsTo hrun with
  | swept hsweep hretry =>
    obtain ⟨_, _, hrounds, hr⟩ := exists_rounds_sweepDeadlocks i
    rw [hsweep] at hrounds
    cases hrounds
    exact (h.swept hr).kept ((Moves.composes.discard admits_kept.revalidateBlocked).of_runOn hretry)
  | notDue => exact h.settled []

/-- A step may put its lane into the crossing whether or not there are vehicles; only the slice after it tells. -/
theorem Junction.PreparesTo.midway {tick : Nat} {decision : Decision} (hp : j.PreparesTo tick decision i)
    (hj : j.Provided) (h : ∀ l, (j.lanes.get l).Settles) : j.Midway decision.lane i := by
  obtain ⟨htick, hback, hpass, hpay⟩ := hp
  have hkept := trans_of Kept (nextTick_kept.of_runOn htick) (admits_kept.readmitEmergencies.of_runOn hback)
  rw [runOn_scheduleNext (hj.exclusive.yields hkept.yields) (hj.linked.yields hkept.yields)] at hpass
  cases hpass
  exact ((Midway.start h).kept hkept).passed.kept ((payOverhead_kept _).of_runOn hpay)

/-- **A step leaves settled lanes settled.** -/
theorem step_settled {outcome : StepOutcome} (hj : j.Provided) (h : ∀ l, (j.lanes.get l).Settles)
    (hrun : step.runOn j = (.ok outcome, i)) : j.Settled outcome.resolutions i := by
  cases step_stepsTo hrun with
  | paused => exact (Midway.start h).settled []
  | @ran tick decision served resolutions j₁ j₂ _ hprepare hserve hsweep =>
    have htotal : j₁.config.quadrantsPerCrossing ≤ j₁.allocator.total := by
      rw [hprepare.terms.config, hprepare.total_eq]
      exact hj.enough
    exact sweepEvery_settled (serveDecided_midway (hprepare.midway hj h) htotal hserve) hsweep

namespace Operation

/-- What is done beside steps and sweeps brings no lane into the crossing and strands none. -/
theorem Regular.keeps (hreg : op.Regular) (hstep : op ≠ .step) (hsweep : op ≠ .sweep) (j : Junction) (l : Lane) :
    (j.lanes.get l).Keeps ((op.next j).lanes.get l) := by
  have hmoves : ∀ {α : Type} {a : Act α} {answer : α → Reply}, a.Moves Kept →
      op.perform = a >>= (fun x => pure (answer x)) → (j.lanes.get l).Keeps ((op.next j).lanes.get l) := fun ha hop => by
    have hperform : op.perform.Moves Kept := hop ▸ ha.bind fun _ => .pure _
    exact (hperform j).lanes l
  cases op with
  | advance | setClock | requestStop | pause | resume | emergency => exact .refl _
  | sleep ms =>
    rw [next_sleep]
    split <;> exact .refl _
  | request m count =>
    have hperform : (request m count).perform.Moves Kept :=
      .bind (admits_kept.request m count) fun _ => .bind (.ofExcept _) fun _ => .pure _
    exact (hperform j).lanes l
  | retry m =>
    have hperform : (retry m).perform.Moves Kept :=
      .bind (admits_kept.retry m) fun _ => .bind (.ofExcept _) fun _ => .pure _
    exact (hperform j).lanes l
  | release m => exact hmoves (admits_kept.release m) rfl
  | tickLane m => exact hmoves (tickLane_kept m) rfl
  | arrive m kind => exact hmoves (generateArrival_kept m kind) rfl
  | revalidate => exact hmoves admits_kept.revalidateBlocked rfl
  | setPolicy p =>
    rw [next_setPolicy, PerLane.get_map]
    exact (j.lanes.get l).keeps_stepAside
  | command c =>
    cases c with
    | pause | resume | shutdown => exact .refl _
    | setPolicy p =>
      rw [next_command_setPolicy, next_setPolicy, PerLane.get_map]
      exact (j.lanes.get l).keeps_stepAside
    | triggerEmergency lane kind =>
      rw [next_command_triggerEmergency]
      cases Lane.ofIndex? lane <;> exact .refl _
  | _ => contradiction

theorem settled_next_step (hj : j.Provided) (h : ∀ l, (j.lanes.get l).Settles) :
    j.Settled (step.entry j).resolutions (step.next j) := by
  obtain ⟨outcome, i, hstep, hrun⟩ := runOn_of_orderly .step step_orderly rfl nofun hj.exclusive hj.linked
  have hentry : step.entry j = .stepped j.traffic outcome := by
    unfold entry
    rw [hrun]
  rw [hentry, show step.next j = i from congrArg Prod.snd hrun]
  exact step_settled hj h hstep

theorem settled_next_sweep (h : ∀ l, (j.lanes.get l).Settles) :
    j.Settled (sweep.entry j).resolutions (sweep.next j) := by
  obtain ⟨rs, i, hsweep, hr⟩ := exists_rounds_sweepDeadlocks j
  have hrun : sweep.runOn j = (.ok (.resolutions rs), i) := by
    rw [runOn_sweep, hsweep]
    rfl
  have hentry : sweep.entry j = .swept rs := by
    unfold entry
    rw [hrun]
  rw [hentry, show sweep.next j = i from congrArg Prod.snd hrun]
  exact (Midway.start h).swept hr

/-- **Settled lanes stay settled, and only a broken deadlock strands a lane.** -/
theorem settled_next (hj : j.Provided) (h : ∀ l, (j.lanes.get l).Settles) (hreg : op.Regular) :
    j.Settled (op.entry j).resolutions (op.next j) := by
  by_cases hstep : op = .step
  · subst hstep
    exact settled_next_step hj h
  by_cases hsweep : op = .sweep
  · subst hsweep
    exact settled_next_sweep h
  have hkeeps := hreg.keeps hstep hsweep j
  exact ⟨fun l => (h l).keeps (hkeeps l), fun l hs => .inl ((hkeeps l).stranded hs)⟩

/-- **The next turn of a stranded lane makes it ready.** -/
theorem tickLane_of_stranded (h : (j.lanes.get l).Stranded) : ((tickLane l).runOn j).1 = .ok (.state .ready) ∧
    (((tickLane l).next j).lanes.get l).state = .ready := by
  have hturned : (j.lanes.get l).turned.aged.state = .ready := by
    have hwaits : (j.lanes.get l).state = .waiting ∧ 0 < (j.lanes.get l).queueLength := h
    rw [Approach.aged_state, Approach.turned, if_pos hwaits]
    rfl
  have htick : (tryOnLane l (fun a => a.tick l)).runOn j =
      (.ok (), { j with lanes := j.lanes.set l (j.lanes.get l).turned.aged }) := by
    rw [runOn_tryOnLane, Approach.tick_eq]
  have hrun : (tickLane l).runOn j =
      (.ok (.state .ready), { j with lanes := j.lanes.set l (j.lanes.get l).turned.aged }) := by
    show (Crossroads.tickLane l >>= fun s => pure (Reply.state s)).runOn j = _
    rw [runOn_then_pure, Crossroads.tickLane, runOn_bind_of_ok htick, ← hturned]
    exact congrArg (fun a : Approach => ((.ok (.state a.state) : Except Fault Reply), _)) (PerLane.get_set_self _ _ _)
  rw [next, hrun]
  exact ⟨rfl, (congrArg Approach.state (PerLane.get_set_self _ _ _)).trans hturned⟩

/-- **A vehicle that is let into a stranded lane makes it ready.** -/
theorem arrive_of_stranded (h : (j.lanes.get l).Stranded) {kind : Option EmergencyKind} {reply : Reply}
    (hok : ((arrive l kind).runOn j).1 = .ok reply) : (((arrive l kind).next j).lanes.get l).state = .ready := by
  have hrun : (arrive l kind).runOn j =
      (((generateArrival l kind).runOn j).1.map .number, ((generateArrival l kind).runOn j).2) := runOn_then_pure _ _ j
  rw [next]
  rw [hrun, runOn_generateArrival] at hok ⊢
  cases ha : (j.lanes.get l).enqueue (j.incoming kind) with
  | error e =>
    rw [ha] at hok
    cases hok
  | ok a =>
    obtain ⟨-, rfl⟩ := Approach.enqueue_eq_ok_iff.1 ha
    exact (congrArg Approach.state (PerLane.get_set_self _ _ _)).trans (if_pos h.1)

end Operation

/-! ## Runs -/

namespace Junction

variable {b : Blueprint} {now : Nat} {ops : List Operation}

/-- A run strands a lane: some operation makes it give way to a deadlock, and it stays stranded from then on. -/
structure Strands (j : Junction) (ops : List Operation) (l : Lane) (before : List Operation) (op : Operation)
    (rest : List Operation) : Prop where
  split : ops = before ++ op :: rest
  victim : l ∈ (op.entry (j.after before)).resolutions.map (·.victim)
  since : ∀ mid, mid <+: rest → ((j.after (before ++ op :: mid)).lanes.get l).Stranded

theorem settles_built (hb : b.build now = .ok j) (l : Lane) : (j.lanes.get l).Settles ∧ ¬ (j.lanes.get l).Stranded := by
  rw [Blueprint.eq_assemble hb, Blueprint.assemble, PerLane.get_ofFn]
  refine ⟨⟨⟨rfl, Nat.zero_le _, fun h => ?_, fun h => ?_, fun _ _ => rfl⟩, fun h => ?_⟩, fun h => ?_⟩
  · cases h
  · cases h
  · cases h
  · exact absurd h.2 (Nat.lt_irrefl 0)

theorem after_concat (j : Junction) (ops : List Operation) (op : Operation) :
    j.after (ops ++ [op]) = op.next (j.after ops) :=
  j.after_append ops [op]

/-- **What a run leaves**: settled lanes, and none that is stranded but those that gave way to a deadlock. -/
theorem settles_after (hb : b.build now = .ok j) (ops : List Operation) (hreg : ∀ op ∈ ops, op.Regular) :
    (j.after ops).Provided ∧ (∀ l, ((j.after ops).lanes.get l).Settles) ∧
      ∀ l, ((j.after ops).lanes.get l).Stranded → ∃ before op rest, j.Strands ops l before op rest := by
  -- From the end: the last operation strands a lane, or the lane was stranded before it and has not left that state.
  induction ops using List.reverseRecOn with
  | nil => exact ⟨.built hb, fun l => (settles_built hb l).1, fun l hs => absurd hs (settles_built hb l).2⟩
  | append_singleton ops op ih =>
    obtain ⟨hops, hop⟩ := List.forall_mem_append.1 hreg
    have hop := hop op (List.mem_singleton_self op)
    obtain ⟨hp, hsettles, hstranded⟩ := ih hops
    have hnext := Operation.settled_next hp hsettles hop
    refine ⟨?_, ?_, fun l hs => ?_⟩
    · rw [after_concat]
      exact hp.next hop
    · rw [after_concat]
      exact hnext.settles
    · have hs' := hs
      rw [after_concat] at hs'
      rcases hnext.stranded l hs' with hbefore | hvictim
      · obtain ⟨before, first, rest, h⟩ := hstranded l hbefore
        refine ⟨before, first, rest ++ [op], by rw [h.split, List.append_assoc]; rfl, h.victim, fun mid hmid => ?_⟩
        rcases List.prefix_concat_iff.1 hmid with rfl | hmid
        · rwa [h.split, List.append_assoc] at hs
        · exact h.since mid hmid
      · refine ⟨ops, op, [], rfl, hvictim, fun mid hmid => ?_⟩
        rw [List.prefix_nil.1 hmid]
        exact hs

/-- **Lane states keep in step with queues**, whatever a simulation does with a freshly built junction, also with
requests, retries and releases by hand.  The cached length is the length of the queue and fits its capacity; a lane that
is ready has vehicles, one that runs has vehicles and has not waited since, and one that waits without vehicles has used
no slices.  A lane that waits with vehicles was made to by a broken deadlock and has done so since, and its next turn or
the next vehicle it lets in makes it ready. -/
theorem inStep_after (hb : b.build now = .ok j) (hreg : ∀ op ∈ ops, op.Regular) (l : Lane) :
    let i := j.after ops
    let a := i.lanes.get l
    a.queueLength = a.queue.length ∧ a.queueLength ≤ a.queue.capacity ∧
    (a.state = .ready → 0 < a.queue.length) ∧
    (a.state = .running → 0 < a.queue.length ∧ a.waitingTime = 0) ∧
    (a.state = .waiting → a.queue.length = 0 → a.slicesConsumed = 0) ∧
    (a.state = .waiting → 0 < a.queue.length →
      (∃ before op rest, j.Strands ops l before op rest) ∧
      (((Operation.tickLane l).runOn i).1 = .ok (.state .ready) ∧
        (((Operation.tickLane l).next i).lanes.get l).state = .ready) ∧
      ∀ kind reply, ((Operation.arrive l kind).runOn i).1 = .ok reply →
        (((Operation.arrive l kind).next i).lanes.get l).state = .ready) := by
  intro i a
  obtain ⟨-, hsettles, hstranded⟩ := settles_after hb ops hreg
  have h : a.Settles := hsettles l
  have hcached := h.cached
  rw [← hcached]
  refine ⟨rfl, hcached ▸ h.fits, h.ready, fun hr => ⟨h.crossing hr, h.running hr⟩, h.waiting, fun hw hq => ?_⟩
  have hs : a.Stranded := ⟨hw, hq⟩
  exact ⟨hstranded l hs, Operation.tickLane_of_stranded hs, fun kind reply => Operation.arrive_of_stranded hs⟩

/-- Others hold all quadrants when vehicles come to the north and the south, and both lanes are denied theirs: the sweep
makes the north give way, and it waits with its vehicle until the next one comes. -/
theorem inStep_after_standoff :
    let ops : List Operation := [.request .north 1, .request .south 1, .request .east 1, .request .west 1,
      .arrive .north none, .step, .arrive .south none, .step, .sweep]
    let j : Junction := Blueprint.assemble { config := {} } {} 0
    ((j.after ops).lanes.get .north).state = .waiting ∧ ((j.after ops).lanes.get .north).queueLength = 1 ∧
      (∃ before op rest, j.Strands ops .north before op rest) ∧
      (((Operation.tickLane .north).next (j.after ops)).lanes.get .north).state = .ready := by
  intro ops j
  have hb : Blueprint.build { config := {} } 0 = .ok j := rfl
  have hreg : ∀ op ∈ ops, op.Regular := by simp [ops, Operation.Regular]
  obtain ⟨hcached, -, -, -, -, hstranded⟩ := inStep_after hb hreg .north
  have hwaits : ((j.after ops).lanes.get .north).state = .waiting := by decide +kernel
  have hlength : ((j.after ops).lanes.get .north).queueLength = 1 := by decide +kernel
  obtain ⟨hsplit, htick, -⟩ := hstranded hwaits (by rw [← hcached, hlength]; exact Nat.one_pos)
  exact ⟨hwaits, hlength, hsplit, htick.2⟩

end Junction
end Crossroads
