import Crossroads.Proofs.Steps.Switches
import Crossroads.Junction.Sweep
/-!
# The parts of admission and of sweeps

A lane that tries again for its quadrants, or gives them back, uses the allocator and notes on itself what it holds and
that it is no longer blocked (`Act.Retries`).  One that asks may also be denied and blocked (`Act.Admits`), and one that
is chosen in a sweep stands down (`Act.Sweeps`).  A property of actions that composes holds of all this if it holds of
the parts.
-/
namespace Crossroads
namespace Act

variable {P : ∀ {α : Type}, Act α → Prop}

/-- Quadrants may be asked for again and given back. -/
structure Retries (P : ∀ {α : Type}, Act α → Prop) : Prop extends Composes P where
  retry : ∀ l, P (onAllocator (fun a => a.retryPending l))
  release : ∀ l, P (onAllocator (fun a => a.release l))
  note : ∀ l held asked, P (onLane l (fun a => a.setQuadrants held asked))
  unblock : ∀ l, P (tryOnLane l (fun a => a.unblock l))

namespace Retries

theorem releaseLane (h : Retries P) (l : Lane) : P (releaseLane l) :=
  h.bind (h.discard (h.release l)) fun _ => h.note l 0 0

theorem settleRetry (h : Retries P) (l : Lane) : ∀ granted, P (settleRetry l granted)
  | .ok _ => h.bind h.get fun _ => h.bind (h.note l _ 0) fun _ => h.bind (h.unblock l) fun _ => h.pure true
  | .error e => by
    cases e with
    | resourceDenied => exact h.pure false
    | _ => exact h.bind (h.releaseLane l) fun _ => h.bind (h.unblock l) fun _ => h.pure true

theorem revalidate (h : Retries P) (l : Lane) : P (revalidate l) :=
  h.bind h.get fun _ => h.ite (h.bind (h.retry l) fun granted => h.settleRetry l granted) (h.pure false)

theorem revalidateBlocked (h : Retries P) : P revalidateBlocked := h.collectLanes h.revalidate Lane.all

theorem readmitEmergencies (h : Retries P) : P readmitEmergencies :=
  h.discard (h.collectLanes (fun l => h.bind h.get fun _ => h.ite (h.revalidate l) (h.pure false)) Lane.all)

end Retries

/-- Besides, quadrants may be asked for, and denied. -/
structure Admits (P : ∀ {α : Type}, Act α → Prop) : Prop extends Retries P where
  request : ∀ l n, P (onAllocator (fun a => a.requestQuadrants l n))
  denial : P (onMetrics Metrics.recordDenial)
  block : ∀ l asked, P (onLane l (fun a => a.blockOn asked))

namespace Admits

theorem settleRequest (h : Admits P) (l : Lane) (needed : Nat) : ∀ granted, P (settleRequest l needed granted)
  | .ok _ => h.bind (h.note l needed 0) fun _ => h.pure true
  | .error e => by
    cases e with
    | resourceDenied => exact h.bind h.denial fun _ => h.bind (h.block l _) fun _ => h.pure false
    | _ => exact h.pure false

theorem admitLane (h : Admits P) (l : Lane) : P (admitLane l) :=
  h.bind h.get fun _ => h.ite (h.pure true) (h.bind (h.request l _) fun granted => h.settleRequest l _ granted)

end Admits

theorem Composes.standDown (h : Composes P) {l : Lane} (hnote : P (onLane l (fun a => a.setQuadrants 0 0)))
    (hwait : P (tryOnLane l (fun a => a.transition l .waiting))) : P (standDown l) :=
  h.bind hnote fun _ => h.bind h.get fun _ => h.ite hwait (h.pure ())

/-- Besides retries, a victim may stand down, which is counted, and a cycle without a victim may be reported. -/
structure Sweeps (P : ∀ {α : Type}, Act α → Prop) : Prop extends Retries P, Reports P where
  standDown : ∀ l, P (standDown l)
  resolution : P (onMetrics Metrics.recordDeadlockResolved)

namespace Sweeps

theorem giveWay (h : Sweeps P) (l : Lane) : P (giveWay l) :=
  h.bind (h.release l) fun _ => h.bind (h.standDown l) fun _ => h.bind h.resolution fun _ => h.pure _

theorem breakFound (h : Sweeps P) {rest : Act (List Resolution)} (hrest : P rest) (select : List Lane → Option Lane) :
    ∀ found, P (breakFound rest select found)
  | none => h.pure []
  | some cycle => by
    unfold Crossroads.breakFound
    dsimp only
    cases select cycle with
    | none => exact h.bind (h.report _) fun _ => h.refuse _
    | some victim => exact h.bind (h.giveWay victim) fun _ => h.bind hrest fun _ => h.pure _

theorem breakCycles (h : Sweeps P) : ∀ rounds, P (breakCycles rounds)
  | 0 => h.pure []
  | rounds + 1 => h.bind h.get fun _ => h.breakFound (h.breakCycles rounds) _ _

end Sweeps
end Act
end Crossroads
