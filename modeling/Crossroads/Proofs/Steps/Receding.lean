import Crossroads.Proofs.Quadrants.Contract
import Crossroads.Proofs.Steps.Admission
import Crossroads.Proofs.Steps.HandsOff
/-!
# What goes on beside passes

Only passes, swaps of the policy and changes by hand put a lane into the crossing or take slices off the count.
Everything else recedes (`Junction.Recedes`): it takes lanes out of the crossing at most and only adds to the slices
used.  The configuration and the settings stay whatever is done (`Operation.terms`).
-/
namespace Crossroads

open Act

variable {j i : Junction} {l : Lane} {a b : Approach} {op : Operation}

namespace Junction

/-- The junctions have one configuration and the same settings. -/
structure SameTerms (j i : Junction) : Prop where
  config : i.config = j.config
  settings : i.settings = j.settings

/-- No further lane runs, and no slice is taken off the count. -/
structure Recedes (j i : Junction) : Prop extends j.SameTerms i where
  runs : ∀ l, i.Runs l → j.Runs l
  sliceCount : j.scheduler.sliceCount ≤ i.scheduler.sliceCount

instance : IsPreorder Junction SameTerms where
  refl _ := ⟨rfl, rfl⟩
  trans _ _ _ h h' := ⟨h'.config.trans h.config, h'.settings.trans h.settings⟩

instance : IsPreorder Junction Recedes where
  refl _ := ⟨⟨rfl, rfl⟩, fun _ h => h, Nat.le_refl _⟩
  trans _ _ _ h h' := ⟨trans_of SameTerms h.toSameTerms h'.toSameTerms, fun l hl => h.runs l (h'.runs l hl),
    Nat.le_trans h.sliceCount h'.sliceCount⟩

theorem Recedes.of_eq (hl : i.lanes = j.lanes) (hs : j.scheduler.sliceCount ≤ i.scheduler.sliceCount)
    (hc : i.config = j.config) (ht : i.settings = j.settings) : j.Recedes i where
  config := hc
  settings := ht
  runs l hr := by
    rw [Runs, hl] at hr
    exact hr
  sliceCount := hs

theorem Recedes.set_lane (h : a.state = .running → j.Runs l) : j.Recedes { j with lanes := j.lanes.set l a } :=
  ⟨⟨rfl, rfl⟩, (Yields.set_lane h).runs, Nat.le_refl _⟩

end Junction

open Junction

/-! ## Parts of the junction -/

theorem Act.Moves.terms {α : Type} {a : Act α} (h : a.Moves Recedes) : a.Moves SameTerms :=
  h.mono fun _ _ h => h.toSameTerms

namespace Junction.Recedes

variable {α : Type}

theorem onScheduler {f : Scheduler → Scheduler} (h : ∀ s, s.sliceCount ≤ (f s).sliceCount) :
    (onScheduler f).Moves Recedes := fun j => .of_eq rfl (h j.scheduler) rfl rfl

theorem onMetrics (f : Metrics → Metrics) : (onMetrics f).Moves Recedes := fun _ => .of_eq rfl (Nat.le_refl _) rfl rfl

theorem onEmergencies (f : Emergencies → α × Emergencies) : (onEmergencies f).Moves Recedes :=
  fun _ => .of_eq rfl (Nat.le_refl _) rfl rfl

theorem report (v : Violation) : (report v).Moves Recedes := fun j => by
  rw [runOn_report]
  exact .of_eq rfl (Nat.le_refl _) rfl rfl

theorem sleep (ms : Nat) : (sleep ms).Moves Recedes := fun j => by
  rw [runOn_sleep]
  dsimp only
  split
  · exact refl_of _ j
  · exact .of_eq rfl (Nat.le_refl _) rfl rfl

theorem tryOnLane (l : Lane) {f : Approach → Except TrafficError Approach} (h : ∀ a : Approach, a.Mild (f a)) :
    (tryOnLane l f).Moves Recedes := Moves.of_lane fun j b hb => by
  have hmild := h (j.lanes.get l)
  rw [hb] at hmild
  exact .set_lane hmild

end Junction.Recedes

/-! ## What recedes -/

theorem enqueueVehicle_recedes (l : Lane) (v : Vehicle) : (enqueueVehicle l v).Moves Recedes :=
  Moves.composes.enqueueVehicle (.tryOnLane l fun a => a.mild_enqueue v)

theorem dequeueVehicle_recedes (l : Lane) : (dequeueVehicle l).Moves Recedes := by
  intro j
  unfold dequeueVehicle
  rw [runOn_bind_of_ok (runOn_get j)]
  cases h : (j.lanes.get l).dequeue with
  | error e => exact refl_of _ j
  | ok r => exact .set_lane fun hr => (Approach.dequeue_state h).symm.trans hr

theorem tickLane_recedes (l : Lane) : (tickLane l).Moves Recedes :=
  Moves.composes.tickLane (.tryOnLane l fun a => a.mild_tick l)

theorem generateArrival_recedes (l : Lane) (emergency : Option EmergencyKind) :
    (generateArrival l emergency).Moves Recedes := by
  intro j
  rw [runOn_generateArrival]
  have hmild := (j.lanes.get l).mild_enqueue (j.incoming emergency)
  cases h : (j.lanes.get l).enqueue (j.incoming emergency) with
  | error e => exact .of_eq rfl (Nat.le_refl _) rfl rfl
  | ok a =>
    rw [h] at hmild
    exact ⟨⟨rfl, rfl⟩, (Yields.set_lane hmild).runs, Nat.le_refl _⟩

theorem triggerEmergency_recedes (l : Lane) (kind : EmergencyKind) : (triggerEmergency l kind).Moves Recedes :=
  Moves.composes.triggerEmergency fun _ => .onEmergencies _

theorem nextTick_recedes : nextTick.Moves Recedes := fun _ => .of_eq rfl (Nat.le_refl _) rfl rfl

theorem payOverhead_recedes (d : Decision) : (payOverhead d).Moves Recedes := Moves.composes.payOverhead .sleep d

/-! ### Admission and sweeps -/

theorem reports_recedes : Reports (Moves Recedes) where
  toComposes := Moves.composes
  report := .report
  refuse _ := .refuse _

theorem admits_recedes : Admits (Moves Recedes) where
  toComposes := Moves.composes
  retry _ _ := .of_eq rfl (Nat.le_refl _) rfl rfl
  release _ _ := .of_eq rfl (Nat.le_refl _) rfl rfl
  note _ _ _ _ := .set_lane fun h => h
  unblock l := .tryOnLane l fun a => a.mild_unblock l
  request _ _ _ := .of_eq rfl (Nat.le_refl _) rfl rfl
  denial := .onMetrics _
  block _ _ _ := .set_lane nofun

theorem sweeps_recedes : Sweeps (Moves Recedes) where
  toRetries := admits_recedes.toRetries
  report := .report
  refuse _ := .refuse _
  standDown l j := by
    rw [runOn_standDown]
    refine .set_lane fun hr => ?_
    split at hr
    · cases hr
    · exact hr
  resolution := .onMetrics _

/-! ### Slices -/

theorem openSlice_recedes (l : Lane) (startMs : Nat) : (openSlice l startMs).Moves Recedes := by
  intro j
  have hruns := ((Yielding.openSlice l startMs).yields j).runs
  unfold openSlice at hruns ⊢
  rw [runOn_bind_of_ok (runOn_get j)] at hruns ⊢
  split
  · rename_i hr
    rw [if_pos hr] at hruns
    exact ⟨⟨rfl, rfl⟩, hruns, Nat.le_refl _⟩
  · exact refl_of _ j

theorem closeSlice_recedes (l : Lane) (startMs endMs : Nat) : (closeSlice l startMs endMs).Moves Recedes := fun j => by
  have hclosed : (j.lanes.get l).closed.state = .running → j.Runs l := fun hr => by
    unfold Approach.closed at hr
    split at hr
    · cases hr
    · exact hr
  rw [runOn_closeSlice]
  exact ⟨⟨rfl, rfl⟩, (Yields.set_lane hclosed).runs, Nat.le_refl _⟩

theorem recordSlice_recedes (r : SliceRecord) : (recordSlice r).Moves Recedes := .onScheduler fun s => by
  dsimp only
  split
  · exact Nat.le_succ _
  · exact Nat.le_refl _

theorem executeSlice_recedes (l : Lane) : (executeSlice l).Moves Recedes :=
  Moves.composes.executeSlice (openSlice_recedes l) fun startMs opened => Moves.composes.finishSlice
    (Moves.composes.crossBatch .sleep) (closeSlice_recedes l startMs) recordSlice_recedes opened

theorem completeEmergency_recedes (l : Lane) : (completeEmergency l).Moves Recedes :=
  Moves.composes.completeEmergency (.onEmergencies _) fun _ => .onMetrics _

theorem completeServed_recedes (l : Lane) (record : Option SliceRecord) : (completeServed l record).Moves Recedes :=
  Moves.composes.completeServed (completeEmergency_recedes l) record

theorem serveDecided_recedes (target : Option Lane) : (serveDecided target).Moves Recedes :=
  Moves.composes.serveDecided admits_recedes.admitLane executeSlice_recedes completeServed_recedes
    admits_recedes.releaseLane target

/-! ## What keeps the terms -/

theorem switches_terms : Switches (Moves SameTerms) :=
  Moves.switches (fun _ _ => ⟨rfl, rfl⟩) (fun _ _ => ⟨rfl, rfl⟩) (fun _ _ => ⟨rfl, rfl⟩) fun _ _ _ => ⟨rfl, rfl⟩

theorem swapPolicy_terms (p : Policy) : (swapPolicy p).Moves SameTerms := switches_terms.swapPolicy fun _ => ⟨rfl, rfl⟩

theorem scheduleNext_terms : scheduleNext.Moves SameTerms :=
  Moves.composes.scheduleNext (fun _ => ⟨rfl, rfl⟩) (switches_terms.serveDue fun _ _ => ⟨rfl, rfl⟩)

theorem Junction.PreparesTo.terms {tick : Nat} {decision : Decision} (h : j.PreparesTo tick decision i) :
    j.SameTerms i := by
  obtain ⟨htick, hback, hpass, hpay⟩ := h
  exact trans_of SameTerms (trans_of SameTerms (trans_of SameTerms (nextTick_recedes.terms.of_runOn htick)
    (admits_recedes.readmitEmergencies.terms.of_runOn hback)) (scheduleNext_terms.of_runOn hpass))
    ((payOverhead_recedes decision).terms.of_runOn hpay)

theorem step_terms : step.Moves SameTerms :=
  Moves.composes.step nextTick_recedes.terms admits_recedes.readmitEmergencies.terms scheduleNext_terms
    (fun d => (payOverhead_recedes d).terms) (fun target => (serveDecided_recedes target).terms)
    fun tick => (sweeps_recedes.sweepEvery tick).terms

/-! ## Operations -/

namespace Operation

/-- What is done beside passes, swaps of the policy and changes by hand. -/
def Beside : Operation → Prop
  | step | schedule | setPolicy _ | command (.setPolicy _) | setState _ _ => False
  | _ => True

/-- **What is done beside passes recedes**, also when it is refused. -/
theorem Beside.recedes (h : op.Beside) : op.perform.Moves Recedes := by
  cases op with
  | enqueue l v => exact .bind (enqueueVehicle_recedes l v) fun _ => .pure _
  | enqueueNow l id => exact .bind .get fun _ => .bind (enqueueVehicle_recedes l _) fun _ => .pure _
  | dequeue l => exact .bind (dequeueVehicle_recedes l) fun _ => .pure _
  | tickLane l => exact .bind (tickLane_recedes l) fun _ => .pure _
  | slice l => exact .bind (executeSlice_recedes l) fun _ => .pure _
  | complete l => exact .bind (completeEmergency_recedes l) fun _ => .pure _
  | checkExclusion => exact .bind reports_recedes.checkMutualExclusion fun _ => .pure _
  | request l count => exact .bind (admits_recedes.request l count) fun _ => .bind (.ofExcept _) fun _ => .pure _
  | retry l => exact .bind (admits_recedes.retry l) fun _ => .bind (.ofExcept _) fun _ => .pure _
  | release l => exact .bind (admits_recedes.release l) fun _ => .pure _
  | sweep => exact .bind (sweeps_recedes.breakCycles 4) fun _ => .pure _
  | raise | resolve => exact .bind (.onEmergencies _) fun _ => .pure _
  | recordGenerated | recordOverflow | recordDenial | recordDeadlockResolved | recordContextSwitch
    | recordEmergencyHandled => exact .bind (.onMetrics _) fun _ => .pure _
  | sleep ms => exact .bind (.sleep ms) fun _ => .pure _
  | arrive l kind => exact .bind (generateArrival_recedes l kind) fun _ => .pure _
  | emergency l kind => exact .bind (triggerEmergency_recedes l kind) fun _ => .pure _
  | revalidate => exact .bind admits_recedes.revalidateBlocked fun _ => .pure _
  | command c =>
    refine .bind ?_ fun _ => .pure _
    cases c with
    | setPolicy => exact h.elim
    | triggerEmergency lane kind =>
      exact .bind (.ofExcept (Lane.ofIndex lane)) fun l => triggerEmergency_recedes l kind
    | pause | resume | shutdown => exact fun _ => .of_eq rfl (Nat.le_refl _) rfl rfl
  | advance | setClock | requestStop | pause | resume => exact fun _ => .of_eq rfl (Nat.le_refl _) rfl rfl
  | step | schedule | setPolicy | setState => exact h.elim

/-- **Every operation keeps the terms.** -/
theorem terms (op : Operation) : op.perform.Moves SameTerms := by
  by_cases h : op.Beside
  · exact h.recedes.terms
  · cases op with
    | step => exact .bind step_terms fun _ => .pure _
    | schedule => exact .bind scheduleNext_terms fun _ => .pure _
    | setPolicy p => exact .bind (swapPolicy_terms p) fun _ => .pure _
    | setState l s => exact .bind (Moves.of_lane fun _ _ _ => ⟨rfl, rfl⟩) fun _ => .pure _
    | command c =>
      cases c with
      | setPolicy p =>
        exact .bind (.bind .get fun _ => .bind (swapPolicy_terms p) fun _ => .pure _) fun _ => .pure _
      | _ => exact absurd trivial h
    | _ => exact absurd trivial h

end Operation

namespace Junction

/-- A lane that crosses asks for no more quadrants than there are. -/
theorem Reachable.enough {allowed : Operation → Prop} (h : j.Reachable allowed) :
    j.config.quadrantsPerCrossing ≤ j.allocator.total := by
  induction h with
  | @built b now j hb =>
    rw [Blueprint.eq_assemble hb]
    exact b.config.normal_normalized.quadrants_le
  | @next j op _ _ ih =>
    rw [(op.becomes j).total_eq, Operation.next_perform, (op.terms j).config]
    exact ih

end Junction

end Crossroads
