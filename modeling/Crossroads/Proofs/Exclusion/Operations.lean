import Crossroads.Routine.Operation
import Crossroads.Proofs.WaitFor.Search
import Crossroads.Proofs.Exclusion.Pass
import Crossroads.Proofs.Exclusion.Sections
/-!
# Operations are safe for a thread without locks

Outside of passes and swaps of the policy an operation consists of sections that yield, so it may be started whatever
the junction and whatever the other threads do (`Operation.routine_free`).
-/
namespace Crossroads

open Act

namespace Routine

variable {α : Type} {Q : α → Prop}

/-! ## Slices -/

theorem lookScheduler_free (f : Junction → α) : (locked .scheduler (look f)).Free (fun _ => True) :=
  .scheduler (.look .linked fun _ hj => ⟨hj, trivial⟩)

theorem recordSlice_free (r : SliceRecord) : (locked .scheduler (recordSlice r)).Free (fun _ => True) := by
  refine .scheduler ((onScheduler_triple (Q := Junction.Linked) .linked fun j hj l hl => ?_).conseq (fun _ hj => hj)
    fun _ _ hj => ⟨hj, trivial⟩)
  exact hj l hl

theorem underCounts_free (l : Lane) {a : Act α} (h : a.Yielding Q) : (underCounts l a).Free Q := by
  have hs : Layer.scheduler ∉ [Layer.metrics, Layer.lane] := by decide
  exact .under nofun rfl (.under nofun rfl (.act_free hs h))

theorem finishSlice_free (l : Lane) (startMs : Nat) : ∀ opened, (finishSlice l startMs opened).Free (fun _ => True)
  | none => .pure trivial
  | some served => .bind (.act (.crossBatch served)) fun _ _ => .bind .look fun endMs _ =>
    .bind (underCounts_free l (.closeSlice l startMs endMs)) fun _ _ => .bind (recordSlice_free _) fun _ _ =>
    .pure trivial

theorem executeSlice_free (l : Lane) : (executeSlice l).Free (fun _ => True) :=
  .bind .look fun startMs _ => .bind (underCounts_free l (.openSlice l startMs)) fun opened _ =>
    finishSlice_free l startMs opened

theorem countResolved_free (tick : Nat) : ∀ resolved, (countResolved tick resolved).Free (fun _ => True)
  | none => .pure trivial
  | some _ => .bind (.locked nofun (.onMetrics _)) fun _ _ => .pure trivial

theorem completeEmergency_free (l : Lane) : (completeEmergency l).Free (fun _ => True) :=
  .bind (lookScheduler_free _) fun tick _ => .bind (.locked nofun (.onEmergencies _)) fun resolved _ =>
    countResolved_free tick resolved

/-! ## Admission -/

theorem settleRequest_free (l : Lane) (needed : Nat) : ∀ granted, (settleRequest l needed granted).Free (fun _ => True)
  | .ok _ => .bind (.locked nofun (.setQuadrants l needed 0)) fun _ _ => .pure trivial
  | .error e => by
    cases e with
    | resourceDenied _ requested _ =>
      exact .bind (.locked nofun (.onMetrics _)) fun _ _ => .bind (.locked nofun (.blockOn l requested)) fun _ _ =>
        .pure trivial
    | _ => exact .pure trivial

theorem admitLane_free (l : Lane) : (admitLane l).Free (fun _ => True) :=
  .bind .look fun needed _ => .bind (.lookLocked nofun) fun _ _ => .ite (.pure trivial)
    (.bind (.locked nofun (.onAllocator _)) fun granted _ => settleRequest_free l needed granted)

theorem releaseLane_free (l : Lane) : (releaseLane l).Free (fun _ => True) :=
  .bind (.discard (.locked nofun (.onAllocator _))) fun _ _ =>
    .locked nofun (.setQuadrants l 0 0)

theorem retryPending_free (l : Lane) : (retryPending l).Free Harmless :=
  .bind (.lookLocked nofun) fun pending _ => .ite (.pure trivial)
    (.locked nofun (.onAllocator_answer fun a => a.harmless_retry l pending))

theorem settleRetry_free (l : Lane) : ∀ granted, (settleRetry l granted).Free (fun _ => True)
  | .ok _ => .bind (.lookLocked nofun) fun held _ => .bind (.locked nofun (.setQuadrants l held 0)) fun _ _ =>
    .bind (.locked nofun (.unblock l)) fun _ _ => .pure trivial
  | .error e => by
    cases e with
    | resourceDenied _ _ _ => exact .pure trivial
    | _ =>
      exact .bind (releaseLane_free l) fun _ _ => .bind (.locked nofun (.unblock l)) fun _ _ => .pure trivial

theorem revalidate_free (l : Lane) : (revalidate l).Free (fun _ => True) :=
  .bind (.lookLocked nofun) fun _ _ => .ite
    (.bind (retryPending_free l) fun granted _ => settleRetry_free l granted) (.pure trivial)

theorem revalidateBlocked_free : revalidateBlocked.Free (fun _ => True) := .collectLanes revalidate_free Lane.all

theorem readmitEmergency_free (l : Lane) : (readmitEmergency l).Free (fun _ => True) :=
  .bind (.lookLocked nofun) fun _ _ => .ite (revalidate_free l) (.pure trivial)

theorem readmitEmergencies_free : readmitEmergencies.Free (fun _ => True) :=
  .discard (.collectLanes readmitEmergency_free Lane.all)

/-! ## Sweeps -/

theorem giveWay_free (l : Lane) : (giveWay l).Free (fun _ => True) :=
  .bind (.locked nofun (.onAllocator _)) fun _ _ =>
    .bind (.locked nofun (.standDown l)) fun _ _ => .bind (.locked nofun (.onMetrics _)) fun _ _ => .pure trivial

theorem breakFound_free {rest : Routine (List Resolution)} {select : List Lane → Option Lane}
    {found : Option (List Lane)} (h : rest.Free (fun _ => True)) (hs : ∀ c, found = some c → (select c).isSome) :
    (breakFound rest select found).Free (fun _ => True) := by
  cases found with
  | none => exact .pure trivial
  | some cycle =>
    obtain ⟨victim, hv⟩ := Option.isSome_iff_exists.1 (hs cycle rfl)
    unfold breakFound
    dsimp only
    rw [hv]
    exact .bind (giveWay_free victim) fun _ _ => .bind h fun _ _ => .pure trivial

/-- A found cycle has a member, whatever the lanes have become since they were read, so there is a victim. -/
theorem breakCycles_free : ∀ rounds, (breakCycles rounds).Free (fun _ => True)
  | 0 => .pure trivial
  | rounds + 1 => by
    refine .bind (.perLane fun _ => .lookLocked nofun) fun lanes _ => .bind (.lookLocked nofun) fun resources _ =>
      .bind .look fun strategy _ => breakFound_free (breakCycles_free rounds) fun c hc => ?_
    exact VictimStrategy.select_isSome (WaitForGraph.findCycle_isCycle hc).ne_nil

/-! ## Steps -/

theorem completeServed_free (l : Lane) (record : Option SliceRecord) :
    (completeServed l record).Free (fun _ => True) :=
  .ite (.discard (completeEmergency_free l)) (.pure trivial)

theorem serveLane_free (l : Lane) : (serveLane l).Free (fun _ => True) :=
  .bind (admitLane_free l) fun _ _ => .ite (.bind (executeSlice_free l) fun record _ =>
    .bind (completeServed_free l record) fun _ _ => .bind (releaseLane_free l) fun _ _ => .pure trivial)
    (.pure trivial)

theorem serveDecided_free : ∀ l, (serveDecided l).Free (fun _ => True)
  | some l => serveLane_free l
  | none => .pure trivial

theorem sweepEvery_free (tick : Nat) : (sweepEvery tick).Free (fun _ => True) :=
  .bind .look fun _ _ => .ite (.bind (breakCycles_free 4) fun _ _ =>
    .bind (.discard revalidateBlocked_free) fun _ _ => .pure trivial) (.pure trivial)

theorem nextTick_free : (act nextTick).Free (fun _ => True) :=
  .act (.of_ok fun _ => ⟨_, _, rfl, .of_eq rfl rfl rfl, trivial⟩)

theorem step_free : step.Free (fun _ => True) :=
  .bind .look fun _ _ => .ite (.pure trivial) (.bind nextTick_free fun tick _ =>
    .bind readmitEmergencies_free fun _ _ => .bind scheduleNext_free fun decision _ =>
    .bind (.act (.payOverhead decision)) fun _ _ => .bind (serveDecided_free decision.lane) fun _ _ =>
    .bind (sweepEvery_free tick) fun _ _ => .pure trivial)

/-! ## Arrivals and commands -/

theorem triggerEmergency_free (l : Lane) (kind : EmergencyKind) : (triggerEmergency l kind).Free (fun _ => True) :=
  .bind (lookScheduler_free _) fun _ _ => .locked nofun (.onEmergencies _)

theorem raiseArrived_free (l : Lane) : ∀ emergency, (raiseArrived l emergency).Free (fun _ => True)
  | some kind => .discard (triggerEmergency_free l kind)
  | none => .pure trivial

theorem settleArrival_free (l : Lane) (emergency : Option EmergencyKind) (id : Nat) :
    ∀ offered, Harmless offered → (settleArrival l emergency id offered).Free (fun _ => True)
  | .error _, h => .bind (.locked nofun (.onMetrics _)) fun _ _ => .act (.refuse h)
  | .ok _, _ => .bind (raiseArrived_free l emergency) fun _ _ => .pure trivial

theorem nextVehicle_free : (act nextVehicle).Free (fun _ => True) :=
  .act (.of_ok fun _ => ⟨_, _, rfl, .of_eq rfl rfl rfl, trivial⟩)

theorem generateArrival_free (l : Lane) (emergency : Option EmergencyKind) :
    (generateArrival l emergency).Free (fun _ => True) :=
  .bind nextVehicle_free fun id _ => .bind (.locked nofun (.onMetrics _)) fun _ _ => .bind .look fun _ _ =>
    .bind (.locked nofun (.offerVehicle l _)) fun offered h => settleArrival_free l emergency id offered h

theorem command_free : ∀ c, (command c).Free (fun _ => True)
  | .pause | .resume | .shutdown => .act (.of_ok fun _ => ⟨_, _, rfl, .of_eq rfl rfl rfl, trivial⟩)
  | .setPolicy p => .bind (lookScheduler_free _) fun _ _ => .bind (swapPolicy_free p) fun _ _ => .pure trivial
  | .triggerEmergency lane kind => .bind (.act (.ofExcept (Lane.harmless_ofIndex lane))) fun l _ =>
    triggerEmergency_free l kind

end Routine

/-- What threads may do side by side: anything but setting a lane's state by hand, and comparing the lanes without the
scheduler's lock. -/
def Operation.SideBySide (op : Operation) : Prop := (∀ l s, op ≠ .setState l s) ∧ op ≠ .checkExclusion

/-- **An operation is safe for a thread without locks.** -/
theorem Operation.routine_free {op : Operation} (h : op.SideBySide) : op.routine.Free (fun _ => True) := by
  cases op with
  | setState l s => exact absurd rfl (h.1 l s)
  | checkExclusion => exact absurd rfl h.2
  | enqueue l v => exact .locked nofun (.bind (.enqueueVehicle l v) fun _ _ => .pure trivial)
  | enqueueNow l id =>
    exact .bind .look fun now _ => .locked nofun (.bind (.enqueueVehicle l _) fun _ _ => .pure trivial)
  | dequeue l => exact .locked nofun (.bind (.dequeueVehicle l) fun _ _ => .pure trivial)
  | tickLane l => exact .locked nofun (.bind (.tickLane l) fun _ _ => .pure trivial)
  | schedule => exact .bind Routine.scheduleNext_free fun _ _ => .pure trivial
  | slice l => exact .bind (Routine.executeSlice_free l) fun _ _ => .pure trivial
  | complete l => exact .bind (Routine.completeEmergency_free l) fun _ _ => .pure trivial
  | setPolicy p => exact .bind (Routine.swapPolicy_free p) fun _ _ => .pure trivial
  | request l count =>
    exact .bind (.locked nofun (.onAllocator_answer fun a => a.harmless_requestQuadrants l count)) fun granted h =>
      .bind (.act (.ofExcept h)) fun _ _ => .pure trivial
  | retry l =>
    exact .bind (Routine.retryPending_free l) fun granted h => .bind (.act (.ofExcept h)) fun _ _ => .pure trivial
  | release l =>
    exact .locked nofun (.bind (.onAllocator _) fun _ _ => .pure trivial)
  | sweep => exact .bind (Routine.breakCycles_free 4) fun _ _ => .pure trivial
  | raise | resolve => exact .locked nofun (.bind (.onEmergencies _) fun _ _ => .pure trivial)
  | recordGenerated | recordOverflow | recordDenial | recordDeadlockResolved | recordContextSwitch
    | recordEmergencyHandled => exact .locked nofun (.bind (.onMetrics _) fun _ _ => .pure trivial)
  | arrive l kind => exact .bind (Routine.generateArrival_free l kind) fun _ _ => .pure trivial
  | step => exact .bind Routine.step_free fun _ _ => .pure trivial
  | emergency l kind => exact .bind (Routine.triggerEmergency_free l kind) fun _ _ => .pure trivial
  | revalidate => exact .bind Routine.revalidateBlocked_free fun _ _ => .pure trivial
  | command c => exact .bind (Routine.command_free c) fun _ _ => .pure trivial
  | sleep ms => exact .act (.bind (.sleep ms) fun _ _ => .pure trivial)
  | advance | setClock | requestStop | pause | resume =>
    exact .act (.of_ok fun _ => ⟨_, _, rfl, .of_eq rfl rfl rfl, trivial⟩)

end Crossroads
