import Crossroads.Junction.Pass
import Crossroads.Proofs.Moves
/-!
# The parts of a pass

What a pass does is said by its parts: lanes leave and enter the crossing (`Act.Shifts`), and the switch is noted by the
scheduler and counted (`Act.Switches`).  A property of actions that composes holds of a whole pass if it holds of these.
-/
namespace Crossroads

open Act

/-- What a context switch does once the lane before is out of the crossing. -/
def takeOver (target : Lane) (forced : Bool) : Act Bool := do
  if ← promote target forced then
    onScheduler (fun s =>
      { s with current := some target, sliceCount := 0, contextSwitches := s.contextSwitches + 1 })
    let overheadMs := (← get).settings.contextSwitchMs
    onMetrics (fun m => m.recordContextSwitch overheadMs)
    checkMutualExclusion
    return true
  else
    onScheduler (fun s => { s with current := none })
    return false

theorem contextSwitch_eq (source : Option Lane) (target : Lane) (forced : Bool) :
    contextSwitch source target forced = (source.filter (· ≠ target)).elim (takeOver target forced)
      (fun l => demote l >>= fun _ => takeOver target forced) := by
  unfold contextSwitch
  cases source.filter (· ≠ target) <;> rfl

namespace Act

variable {P : ∀ {α : Type}, Act α → Prop}

/-- Breaches may be reported and refused. -/
structure Reports (P : ∀ {α : Type}, Act α → Prop) : Prop extends Composes P where
  report : ∀ v, P (report v)
  refuse : ∀ {α : Type} (v : Violation), P (refuse (.invariantViolation v.detail) : Act α)

theorem Reports.checkMutualExclusion (h : Reports P) : P checkMutualExclusion :=
  h.bind h.get fun _ => h.ite (h.bind (h.report _) fun _ => h.refuse _) (h.pure ())

/-- Lanes may leave and enter the crossing, and quanta begin anew. -/
structure Shifts (P : ∀ {α : Type}, Act α → Prop) : Prop extends Reports P where
  leave : ∀ l, P (tryOnLane l (fun a => a.transition l a.yieldState))
  enter : ∀ l, P (tryOnLane l (fun a => a.transition l .running))
  force : ∀ l, P (onLane l Approach.forceRunning)
  renew : ∀ quantum, P (onScheduler (fun s => if quantum ≤ s.sliceCount then { s with sliceCount := 0 } else s))

namespace Shifts

theorem demote (h : Shifts P) (l : Lane) : P (demote l) := h.bind h.get fun _ => h.ite (h.leave l) (h.pure ())

theorem promote (h : Shifts P) (l : Lane) (forced : Bool) : P (promote l forced) :=
  h.ite (h.bind (h.force l) fun _ => h.pure true) (h.bind h.get fun _ =>
    h.ite (h.bind (h.enter l) fun _ => h.pure true) (h.pure false))

theorem keepRunning (h : Shifts P) : ∀ running, P (keepRunning running)
  | none => h.pure _
  | some _ => h.bind h.get fun _ => h.bind (h.renew _) fun _ => h.pure _

theorem swapPolicy (h : Shifts P) {p : Policy}
    (hswap : P (onScheduler fun s => { s with policy := p, current := none, sliceCount := 0, readyQueue := [] })) :
    P (swapPolicy p) :=
  h.bind hswap fun _ => h.forM h.demote Lane.all

end Shifts

/-- The crossing may change hands: besides, the scheduler notes it, and switches are counted. -/
structure Switches (P : ∀ {α : Type}, Act α → Prop) : Prop extends Shifts P where
  take : ∀ l, P (onScheduler (fun s =>
    { s with current := some l, sliceCount := 0, contextSwitches := s.contextSwitches + 1 }))
  count : ∀ ms, P (onMetrics (fun m => m.recordContextSwitch ms))
  abandon : P (onScheduler (fun s => { s with current := none }))
  confirm : ∀ l, P (onScheduler (fun s => { s with current := some l }))

namespace Switches

theorem takeOver (h : Switches P) (target : Lane) (forced : Bool) : P (takeOver target forced) := by
  refine h.bind (h.promote target forced) fun _ => h.ite ?_ (h.bind h.abandon fun _ => h.pure false)
  refine h.bind (h.take target) fun _ => h.bind h.get fun _ => h.bind (h.count _) fun _ => ?_
  exact h.bind h.checkMutualExclusion fun _ => h.pure true

theorem contextSwitch (h : Switches P) (source : Option Lane) (target : Lane) (forced : Bool) :
    P (contextSwitch source target forced) := by
  rw [contextSwitch_eq]
  cases source.filter (· ≠ target) with
  | none => exact h.takeOver target forced
  | some l => exact h.bind (h.demote l) fun _ => h.takeOver target forced

theorem preempt (h : Switches P) (target : Lane) : P (preempt target) :=
  h.bind h.get fun _ => h.ite (h.bind (h.confirm target) fun _ => h.pure _)
    (h.bind (h.discard (h.contextSwitch _ target true)) fun _ => h.pure _)

theorem handOver (h : Switches P) (running : Option Lane) (target : Lane) : P (handOver running target) :=
  h.bind h.get fun _ => h.bind (h.contextSwitch _ target false) fun _ => h.ite (h.pure _) (h.pure _)

theorem followChoice (h : Switches P) (running : Option Lane) : ∀ choice, P (followChoice running choice)
  | none => h.keepRunning running
  | some target => h.ite (h.keepRunning running) (h.handOver running target)

theorem serveDue (h : Switches P) (hview : ∀ ls, P (onScheduler (fun s => { s with readyQueue := ls }))) :
    ∀ due, P (serveDue due)
  | none => h.bind h.get fun _ => h.bind (hview _) fun _ => h.ite (h.keepRunning _) (h.followChoice _ _)
  | some event => h.preempt event.lane

end Switches

/-- A relation leaves room for switches if lanes, the monitor, the counted switches and the scheduler may change, apart
from its view of the ready lanes. -/
theorem Moves.switches {R : Junction → Junction → Prop} [IsPreorder Junction R]
    (hlanes : ∀ (j : Junction) lanes, R j { j with lanes := lanes })
    (hmonitor : ∀ (j : Junction) v, R j { j with monitor := j.monitor.record v })
    (hmetrics : ∀ (j : Junction) ms, R j { j with metrics := j.metrics.recordContextSwitch ms })
    (hscheduler : ∀ (j : Junction) s, s.readyQueue = j.scheduler.readyQueue → R j { j with scheduler := s }) :
    Switches (Moves R) where
  toComposes := Moves.composes
  report v j := by
    rw [runOn_report]
    exact hmonitor j v
  refuse _ := .refuse _
  leave _ := .of_lane fun j _ _ => hlanes j _
  enter _ := .of_lane fun j _ _ => hlanes j _
  force _ j := hlanes j _
  renew quantum j := hscheduler j _ (by dsimp only; split <;> rfl)
  take _ j := hscheduler j _ rfl
  count ms j := hmetrics j ms
  abandon j := hscheduler j _ rfl
  confirm _ j := hscheduler j _ rfl

end Act
end Crossroads
