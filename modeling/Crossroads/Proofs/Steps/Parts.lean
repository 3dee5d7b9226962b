import Crossroads.Junction.Step
import Crossroads.Proofs.Quadrants.Requests
import Crossroads.Proofs.Steps.Admission
/-!
# The parts of a step

Slices, resolved emergencies, arrivals and whole steps are put together from other actions.  A property of actions that
composes holds of each as soon as it holds of what it is put together from.

What an action answered tells how it went: each of its parts answered too, from the junction that the one before it
left (`Junction.StepsTo` for a step, `Junction.ServesTo` for the lane that is let cross in it).
-/
namespace Crossroads
namespace Act

variable {P : ∀ {α : Type}, Act α → Prop} {l : Lane}

namespace Composes

variable (h : Composes P)
include h

/-! ## Slices -/

theorem crossBatch (hsleep : ∀ ms, P (sleep ms)) (served : Nat) : P (crossBatch served) :=
  h.ite (h.bind h.get fun _ => h.discard (hsleep _)) (h.pure ())

theorem closeSlice (hwait : P (tryOnLane l (fun a => a.transition l .waiting)))
    (hbusy : ∀ ms, P (onMetrics (fun m => m.recordBusy ms))) (startMs endMs : Nat) : P (closeSlice l startMs endMs) :=
  h.bind h.get fun _ => h.ite (h.bind hwait fun _ => hbusy _) (hbusy _)

theorem finishSlice {startMs : Nat} (hcross : ∀ served, P (Crossroads.crossBatch served))
    (hclose : ∀ endMs, P (Crossroads.closeSlice l startMs endMs)) (hrecord : ∀ r, P (recordSlice r)) :
    ∀ opened, P (finishSlice l startMs opened)
  | none => h.pure none
  | some served => h.bind (hcross served) fun _ => h.bind h.get fun _ => h.bind (hclose _) fun _ =>
    h.bind (hrecord _) fun _ => h.pure _

theorem executeSlice (hopen : ∀ startMs, P (openSlice l startMs))
    (hfinish : ∀ startMs opened, P (Crossroads.finishSlice l startMs opened)) : P (executeSlice l) :=
  h.bind h.get fun _ => h.bind (hopen _) fun _ => hfinish _ _

theorem completeEmergency (hresolve : P (onEmergencies (fun e => e.resolve l)))
    (hcount : ∀ ticks, P (onMetrics (fun m => m.recordEmergencyHandled ticks))) : P (completeEmergency l) :=
  h.bind h.get fun _ => h.bind hresolve fun
    | none => h.pure none
    | some _ => h.bind (hcount _) fun _ => h.pure _

theorem completeServed (hcomplete : P (Crossroads.completeEmergency l)) (record : Option SliceRecord) :
    P (completeServed l record) :=
  h.ite (h.discard hcomplete) (h.pure ())

/-! ## Steps -/

theorem scheduleNext (hcount : P (onScheduler (fun s => { s with tick := s.tick + 1 })))
    (hserve : ∀ due, P (serveDue due)) : P scheduleNext :=
  h.bind hcount fun _ => h.bind h.get fun _ => hserve _

theorem payOverhead (hsleep : ∀ ms, P (sleep ms)) (d : Decision) : P (payOverhead d) :=
  h.ite (h.bind h.get fun _ => h.discard (hsleep _)) (h.pure ())

theorem serveDecided (hletIn : ∀ l, P (admitLane l)) (hslice : ∀ l, P (Crossroads.executeSlice l))
    (hcomplete : ∀ l record, P (Crossroads.completeServed l record)) (hrelease : ∀ l, P (releaseLane l)) :
    ∀ target, P (serveDecided target)
  | none => h.pure _
  | some l => h.bind (hletIn l) fun _ => h.ite
    (h.bind (hslice l) fun _ => h.bind (hcomplete l _) fun _ => h.bind (hrelease l) fun _ => h.pure _) (h.pure _)

theorem step (htick : P nextTick) (hback : P readmitEmergencies) (hpass : P Crossroads.scheduleNext)
    (hpay : ∀ d, P (Crossroads.payOverhead d)) (hserve : ∀ target, P (Crossroads.serveDecided target))
    (hsweep : ∀ tick, P (sweepEvery tick)) : P step :=
  h.bind h.get fun _ => h.ite (h.pure _) (h.bind htick fun tick => h.bind hback fun _ => h.bind hpass fun decision =>
    h.bind (hpay decision) fun _ => h.bind (hserve _) fun _ => h.bind (hsweep tick) fun _ => h.pure _)

/-! ## Other actions -/

theorem enqueueVehicle {v : Vehicle} (hin : P (tryOnLane l (fun a => a.enqueue v))) : P (enqueueVehicle l v) :=
  h.bind hin fun _ => h.bind h.get fun _ => h.pure _

theorem tickLane (hturn : P (tryOnLane l (fun a => a.tick l))) : P (tickLane l) :=
  h.bind hturn fun _ => h.bind h.get fun _ => h.pure _

theorem triggerEmergency {kind : EmergencyKind} (hraise : ∀ tick, P (onEmergencies (fun e => e.trigger l kind tick))) :
    P (triggerEmergency l kind) :=
  h.bind h.get fun _ => hraise _

end Composes

theorem Sweeps.sweepEvery (h : Sweeps P) (tick : Nat) : P (sweepEvery tick) :=
  h.bind h.get fun _ => h.ite (h.bind (h.breakCycles 4) fun _ => h.bind (h.discard h.revalidateBlocked) fun _ =>
    h.pure _) (h.pure [])

end Act

/-! ## How an action went -/

open Act

namespace Junction

/-- How a lane asked for its quadrants: it had them, was given them, or was denied them and is blocked. -/
inductive AsksTo (j : Junction) (l : Lane) : Bool → Junction → Prop where
  | held : j.AsksTo l true j
  | granted (a : Allocator) (n : Nat) :
    j.AsksTo l true { j with allocator := a, lanes := j.lanes.set l ((j.lanes.get l).setQuadrants n 0) }
  | denied (a : Allocator) (n : Nat) : j.AsksTo l false { j with
      allocator := a
      metrics := j.metrics.recordDenial
      lanes := j.lanes.set l ((j.lanes.get l).blockOn n) }

/-- How a lane was let cross. -/
inductive ServesTo (j : Junction) (l : Lane) : Option SliceRecord × Bool → Junction → Prop where
  | crossed {record : Option SliceRecord} {j₁ j₂ j₃ i : Junction} : (admitLane l).runOn j = (.ok true, j₁) →
    (executeSlice l).runOn j₁ = (.ok record, j₂) → (completeServed l record).runOn j₂ = (.ok (), j₃) →
    (releaseLane l).runOn j₃ = (.ok (), i) → j.ServesTo l (record, false) i
  | denied {i : Junction} : (admitLane l).runOn j = (.ok false, i) → j.ServesTo l (none, true) i

/-- How a step came to serve a lane: its number, what was decided, and the junction when the switch was paid for. -/
inductive PreparesTo (j : Junction) (tick : Nat) (decision : Decision) (i : Junction) : Prop where
  | passed {j₁ j₂ j₃ : Junction} : nextTick.runOn j = (.ok tick, j₁) →
    readmitEmergencies.runOn j₁ = (.ok (), j₂) → scheduleNext.runOn j₂ = (.ok decision, j₃) →
    (payOverhead decision).runOn j₃ = (.ok (), i) → j.PreparesTo tick decision i

/-- How a step ended: deadlocks were broken and lanes tried again, or it was not the step for it. -/
inductive SweepsTo (j : Junction) : List Resolution → Junction → Prop where
  | swept {resolutions : List Resolution} {j₁ i : Junction} : sweepDeadlocks.runOn j = (.ok resolutions, j₁) →
    (discard revalidateBlocked).runOn j₁ = (.ok (), i) → j.SweepsTo resolutions i
  | notDue : j.SweepsTo [] j

/-- How a step went. -/
inductive StepsTo (j : Junction) : StepOutcome → Junction → Prop where
  | paused : j.StepsTo .paused j
  | ran {tick : Nat} {decision : Decision} {served : Option SliceRecord × Bool} {resolutions : List Resolution}
    {j₁ j₂ i : Junction} : j.PreparesTo tick decision j₁ → (serveDecided decision.lane).runOn j₁ = (.ok served, j₂) →
    (sweepEvery tick).runOn j₂ = (.ok resolutions, i) → j.StepsTo (.ran decision served.1 served.2 resolutions) i

end Junction

variable {j i : Junction} {l : Lane}

theorem admitLane_asksTo {admitted : Bool} (hn : j.config.quadrantsPerCrossing ≤ j.allocator.total)
    (h : (admitLane l).runOn j = (.ok admitted, i)) : j.AsksTo l admitted i := by
  unfold admitLane at h
  rw [runOn_bind_of_ok (runOn_get j)] at h
  dsimp only at h
  split at h
  · cases h
    exact .held
  · -- what is missing is at least one quadrant and at most all of them, so the request is neither empty nor too large
    rw [runOn_bind_of_ok (runOn_onAllocator _ j)] at h
    rcases j.allocator.requestQuadrants_cases l (j.config.quadrantsPerCrossing - j.allocator.allocation.get l) with
      ⟨h0, -⟩ | ⟨-, hbeyond, -⟩ | ⟨-, -, -, hdenied⟩ | ⟨-, hgranted⟩
    · omega
    · omega
    · rw [hdenied] at h
      cases h
      exact .denied _ _
    · rw [hgranted] at h
      cases h
      exact .granted _ _

theorem serveLane_servesTo {served : Option SliceRecord × Bool} (h : (serveLane l).runOn j = (.ok served, i)) :
    j.ServesTo l served i := by
  unfold serveLane at h
  obtain ⟨admitted, j₁, hletIn, h⟩ := runOn_bind_eq_ok.1 h
  cases admitted with
  | true =>
    obtain ⟨record, j₂, hslice, h⟩ := runOn_bind_eq_ok.1 h
    obtain ⟨_, j₃, hcomplete, h⟩ := runOn_bind_eq_ok.1 h
    obtain ⟨_, j₄, hrelease, h⟩ := runOn_bind_eq_ok.1 h
    cases h
    exact .crossed hletIn hslice hcomplete hrelease
  | false =>
    cases h
    exact .denied hletIn

theorem sweepEvery_sweepsTo {tick : Nat} {resolutions : List Resolution}
    (h : (sweepEvery tick).runOn j = (.ok resolutions, i)) : j.SweepsTo resolutions i := by
  unfold sweepEvery at h
  rw [runOn_bind_of_ok (runOn_get j)] at h
  split at h
  · obtain ⟨found, j₁, hsweep, h⟩ := runOn_bind_eq_ok.1 h
    obtain ⟨_, j₂, hretry, h⟩ := runOn_bind_eq_ok.1 h
    cases h
    exact .swept hsweep hretry
  · cases h
    exact .notDue

theorem step_stepsTo {outcome : StepOutcome} (h : step.runOn j = (.ok outcome, i)) : j.StepsTo outcome i := by
  unfold step at h
  rw [runOn_bind_of_ok (runOn_get j)] at h
  split at h
  · cases h
    exact .paused
  · obtain ⟨tick, j₁, htick, h⟩ := runOn_bind_eq_ok.1 h
    obtain ⟨_, j₂, hback, h⟩ := runOn_bind_eq_ok.1 h
    obtain ⟨decision, j₃, hpass, h⟩ := runOn_bind_eq_ok.1 h
    obtain ⟨_, j₄, hpay, h⟩ := runOn_bind_eq_ok.1 h
    obtain ⟨served, j₅, hserve, h⟩ := runOn_bind_eq_ok.1 h
    obtain ⟨resolutions, j₆, hsweep, h⟩ := runOn_bind_eq_ok.1 h
    cases h
    exact .ran (.passed htick hback hpass hpay) hserve hsweep

end Crossroads
