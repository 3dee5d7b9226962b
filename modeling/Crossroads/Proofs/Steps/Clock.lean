import Crossroads.Proofs.Counters.Agreement
import Crossroads.Proofs.Steps.Punctual
import Crossroads.Proofs.Steps.Receding
import Crossroads.Proofs.Steps.Switches
/-!
# How the clock moves

In a step time passes twice: while a context switch is paid for, and while a batch crosses.  All else takes no time
(`Junction.SameTime`).  So a slice of a step begins when the switch is paid for and ends with the step
(`step_crosses`), and as long as nobody sets the clock back it never goes back (`Operation.Forward.elapses`).
-/
namespace Crossroads

open Act

variable {j i : Junction} {l : Lane} {op : Operation} {record : Option SliceRecord}

namespace Junction

/-- No time has passed, and no stop was requested meanwhile. -/
structure SameTime (j i : Junction) : Prop where
  clock : i.clock = j.clock
  stopped : i.stopped = j.stopped
  startedMs : i.metrics.startedMs = j.metrics.startedMs

/-- Some time may have passed, and a stop may have been requested. -/
structure Elapses (j i : Junction) : Prop where
  clock : j.clock ≤ i.clock
  stopped : i.stopped = false → j.stopped = false
  startedMs : i.metrics.startedMs = j.metrics.startedMs

instance : IsPreorder Junction SameTime where
  refl _ := ⟨rfl, rfl, rfl⟩
  trans _ _ _ h k := ⟨k.clock.trans h.clock, k.stopped.trans h.stopped, k.startedMs.trans h.startedMs⟩

instance : IsPreorder Junction Elapses where
  refl _ := ⟨Nat.le_refl _, fun h => h, rfl⟩
  trans _ _ _ h k := ⟨Nat.le_trans h.clock k.clock, fun hs => h.stopped (k.stopped hs), k.startedMs.trans h.startedMs⟩

theorem SameTime.elapses (h : j.SameTime i) : j.Elapses i where
  clock := Nat.le_of_eq h.clock.symm
  stopped hs := h.stopped ▸ hs
  startedMs := h.startedMs

theorem switches_sameTime : Switches (Moves SameTime) :=
  Moves.switches (fun _ _ => ⟨rfl, rfl, rfl⟩) (fun _ _ => ⟨rfl, rfl, rfl⟩) (fun _ _ => ⟨rfl, rfl, rfl⟩)
    fun _ _ _ => ⟨rfl, rfl, rfl⟩

theorem admits_sameTime : Admits (Moves SameTime) where
  toComposes := Moves.composes
  retry _ _ := ⟨rfl, rfl, rfl⟩
  release _ _ := ⟨rfl, rfl, rfl⟩
  note _ _ _ _ := ⟨rfl, rfl, rfl⟩
  unblock _ := Moves.of_lane fun _ _ _ => ⟨rfl, rfl, rfl⟩
  request _ _ _ := ⟨rfl, rfl, rfl⟩
  denial _ := ⟨rfl, rfl, rfl⟩
  block _ _ _ := ⟨rfl, rfl, rfl⟩

theorem sweeps_sameTime : Sweeps (Moves SameTime) where
  toRetries := admits_sameTime.toRetries
  report := switches_sameTime.report
  refuse := switches_sameTime.refuse
  standDown l j := by
    rw [runOn_standDown]
    exact ⟨rfl, rfl, rfl⟩
  resolution _ := ⟨rfl, rfl, rfl⟩

end Junction

open Junction

theorem Act.Moves.elapses {α : Type} {a : Act α} (h : a.Moves SameTime) : a.Moves Elapses :=
  h.mono fun _ _ h => h.elapses

/-! ## What takes no time -/

theorem swapPolicy_sameTime (p : Policy) : (swapPolicy p).Moves SameTime :=
  switches_sameTime.swapPolicy fun _ => ⟨rfl, rfl, rfl⟩

theorem scheduleNext_sameTime : scheduleNext.Moves SameTime :=
  Moves.composes.scheduleNext (fun _ => ⟨rfl, rfl, rfl⟩) (switches_sameTime.serveDue fun _ _ => ⟨rfl, rfl, rfl⟩)

theorem completeServed_sameTime (l : Lane) (record : Option SliceRecord) : (completeServed l record).Moves SameTime :=
  Moves.composes.completeServed
    (Moves.composes.completeEmergency (fun _ => ⟨rfl, rfl, rfl⟩) fun _ _ => ⟨rfl, rfl, rfl⟩) record

theorem nextTick_sameTime : nextTick.Moves SameTime := fun _ => ⟨rfl, rfl, rfl⟩

theorem generateArrival_sameTime (l : Lane) (emergency : Option EmergencyKind) :
    (generateArrival l emergency).Moves SameTime := by
  intro j
  rw [runOn_generateArrival]
  cases (j.lanes.get l).enqueue (j.incoming emergency) with
  | error e => exact ⟨rfl, rfl, rfl⟩
  | ok a => exact ⟨rfl, rfl, rfl⟩

/-! ## Crossings -/

/-- The clock moves as the record says, and not at all without one. -/
structure Junction.Crosses (j : Junction) (record : Option SliceRecord) (i : Junction) : Prop where
  stopped : i.stopped = j.stopped
  startedMs : i.metrics.startedMs = j.metrics.startedMs
  idle : record = none → i.clock = j.clock
  recorded : ∀ r, record = some r → r.startMs = j.clock ∧ r.startMs ≤ r.endMs ∧ r.endMs = i.clock

namespace Junction.Crosses

theorem of_sameTime (h : j.SameTime i) : j.Crosses none i := ⟨h.stopped, h.startedMs, fun _ => h.clock, nofun⟩

theorem after {k : Junction} (h : k.Crosses record i) (hjk : j.SameTime k) : j.Crosses record i where
  stopped := h.stopped.trans hjk.stopped
  startedMs := h.startedMs.trans hjk.startedMs
  idle hr := (h.idle hr).trans hjk.clock
  recorded r hr := by
    rw [← hjk.clock]
    exact h.recorded r hr

theorem before {k : Junction} (h : j.Crosses record k) (hki : k.SameTime i) : j.Crosses record i where
  stopped := hki.stopped.trans h.stopped
  startedMs := hki.startedMs.trans h.startedMs
  idle hr := hki.clock.trans (h.idle hr)
  recorded r hr := by
    rw [hki.clock]
    exact h.recorded r hr

theorem le (h : j.Crosses record i) : j.clock ≤ i.clock := by
  cases record with
  | none => exact Nat.le_of_eq (h.idle rfl).symm
  | some r =>
    obtain ⟨hstart, hle, hend⟩ := h.recorded r rfl
    omega

end Junction.Crosses

theorem executeSlice_crosses (hc : j.traffic.Cached) (h : (executeSlice l).runOn j = (.ok record, i)) :
    j.Crosses record i := by
  by_cases hr : j.Runs l
  · rw [runOn_executeSlice hr (j.cached_lane hc l)] at h
    cases h
    refine ⟨rfl, rfl, nofun, ?_⟩
    rintro r ⟨⟩
    exact ⟨rfl, Nat.le_add_right _ _, rfl⟩
  · rw [runOn_executeSlice_of_not_runs hr] at h
    cases h
    exact .of_sameTime (refl_of _ _)

theorem serveLane_crosses {served : Option SliceRecord × Bool} (hc : j.traffic.Cached)
    (h : (serveLane l).runOn j = (.ok served, i)) : j.Crosses served.1 i := by
  cases serveLane_servesTo h with
  | denied hletIn => exact .of_sameTime ((admits_sameTime.admitLane l).of_runOn hletIn)
  | @crossed record j₁ j₂ j₃ _ hletIn hslice hcomplete hrelease =>
    have ht := (admits_quiet.admitLane l).traffic_eq hletIn
    have hcross := (executeSlice_crosses (ht ▸ hc) hslice).after ((admits_sameTime.admitLane l).of_runOn hletIn)
    exact (hcross.before ((completeServed_sameTime l record).of_runOn hcomplete)).before
      ((admits_sameTime.releaseLane l).of_runOn hrelease)

theorem serveDecided_crosses {target : Option Lane} {served : Option SliceRecord × Bool} (hc : j.traffic.Cached)
    (h : (serveDecided target).runOn j = (.ok served, i)) : j.Crosses served.1 i := by
  cases target with
  | none =>
    cases h
    exact .of_sameTime (refl_of _ _)
  | some l => exact serveLane_crosses hc h

/-- The time that a step pays for a switch; it pays none once a stop was requested. -/
def Junction.paidMs (j : Junction) (outcome : StepOutcome) : Nat :=
  if outcome.isSwitch = true ∧ j.stopped = false then j.settings.contextSwitchMs else 0

/-- Before a step serves a lane, only the switch takes time. -/
theorem Junction.PreparesTo.paid {tick : Nat} {decision : Decision} (h : j.PreparesTo tick decision i) :
    Junction.SameTime { j with clock := j.clock + j.overheadMs decision } i := by
  have hterms := h.terms
  obtain @⟨j₁, j₂, j₃, htick, hback, hpass, hpay⟩ := h
  have hsame : j.SameTime j₃ :=
    trans_of SameTime (trans_of SameTime (nextTick_sameTime.of_runOn htick)
      (admits_sameTime.readmitEmergencies.of_runOn hback)) (scheduleNext_sameTime.of_runOn hpass)
  rw [runOn_payOverhead] at hpay
  cases hpay
  refine ⟨?_, hsame.stopped, hsame.startedMs⟩
  show j₃.clock + j₃.overheadMs decision = j.clock + j.overheadMs decision
  rw [overheadMs, overheadMs, hsame.clock, hsame.stopped, hterms.settings]

/-- **How the clock moves in a step**: the switch is paid for, and then the slice is made. -/
theorem step_crosses {outcome : StepOutcome} (hc : j.traffic.Cached) (h : step.runOn j = (.ok outcome, i)) :
    Junction.Crosses { j with clock := j.clock + j.paidMs outcome } outcome.record i := by
  cases step_stepsTo h with
  | paused =>
    have hpaid : j.paidMs .paused = 0 := if_neg fun h => Bool.false_ne_true h.1
    rw [hpaid]
    exact .of_sameTime (refl_of _ _)
  | @ran tick decision served resolutions j₁ j₂ _ hprepare hserve hsweep =>
    have hcross := (serveDecided_crosses (hprepare.traffic_eq ▸ hc) hserve).after hprepare.paid
    exact hcross.before ((sweeps_sameTime.sweepEvery tick).of_runOn hsweep)

/-! ## Operations -/

namespace Operation

/-- A regular operation that does not set the clock back. -/
def Forward (j : Junction) (op : Operation) : Prop := op.Regular ∧ ∀ ms, op = .setClock ms → j.clock ≤ ms

theorem command_elapses : ∀ c : Command, c.apply.Moves Elapses
  | .pause | .resume => fun _ => ⟨Nat.le_refl _, fun h => h, rfl⟩
  | .shutdown => fun _ => ⟨Nat.le_refl _, nofun, rfl⟩
  | .setPolicy p => .bind .get fun _ => .bind (swapPolicy_sameTime p).elapses fun _ => .pure _
  | .triggerEmergency lane _ => .bind (.ofExcept (Lane.ofIndex lane)) fun _ =>
    Moves.composes.triggerEmergency fun _ _ => ⟨Nat.le_refl _, fun h => h, rfl⟩

/-- **Time never goes back** in a regular operation that does not set the clock back. -/
theorem Forward.elapses (hop : op.Forward j) (hstep : op ≠ .step) : j.Elapses (op.next j) := by
  obtain ⟨hreg, hforward⟩ := hop
  cases op with
  | step => exact absurd rfl hstep
  | setClock ms => exact ⟨hforward ms rfl, fun h => h, rfl⟩
  | advance ms => exact ⟨Nat.le_add_right _ _, fun h => h, rfl⟩
  | sleep ms =>
    have hsleep : (Act.sleep ms).Moves Elapses := fun j => by
      rw [runOn_sleep]
      dsimp only
      split
      · exact refl_of _ j
      · exact ⟨Nat.le_add_right _ _, fun h => h, rfl⟩
    exact hsleep.bind (fun _ => .pure _) j
  | requestStop => exact ⟨Nat.le_refl _, nofun, rfl⟩
  | release | pause | resume | emergency => exact ⟨Nat.le_refl _, fun h => h, rfl⟩
  | arrive l kind => exact (generateArrival_sameTime l kind).elapses.bind (fun _ => .pure _) j
  | command c => exact (command_elapses c).bind (fun _ => .pure _) j
  | request l count =>
    exact (admits_sameTime.request l count).elapses.bind (fun _ => .bind (.ofExcept _) fun _ => .pure _) j
  | retry l => exact (admits_sameTime.retry l).elapses.bind (fun _ => .bind (.ofExcept _) fun _ => .pure _) j
  | tickLane l =>
    have hturn : (tryOnLane l (fun a => a.tick l)).Moves Elapses :=
      Moves.of_lane fun _ _ _ => ⟨Nat.le_refl _, fun h => h, rfl⟩
    exact (Moves.composes.tickLane hturn).bind (fun _ => .pure _) j
  | setPolicy p => exact (swapPolicy_sameTime p).elapses.bind (fun _ => .pure _) j
  | sweep => exact (sweeps_sameTime.breakCycles 4).elapses.bind (fun _ => .pure _) j
  | revalidate => exact admits_sameTime.revalidateBlocked.elapses.bind (fun _ => .pure _) j
  | _ => exact hreg.elim

end Operation
end Crossroads
