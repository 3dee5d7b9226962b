import Crossroads.LockOrder
import Mathlib.Logic.Function.Basic
/-!
# A thread among locks

One thread and the locks that it shares with others.  Each lock is watched by a monitor, and locks may share one.  What
the thread calls is what a row of locks does (`LockRow`), with the layers that the thread holds and the monitor of the
lock in question.  A call that takes a lock gives its guard, which lives until it is dropped, in whatever order; between
two calls others do as they like with the monitors, and with the locks whose guards the thread does not have.
-/
namespace Crossroads

structure LockGuard where
  lock : Nat
  layer : Layer
deriving DecidableEq

structure LockThread (μ : Type) where
  locks : List CountingLock
  watchedBy : Nat → μ
  monitor : μ → Monitor
  held : HeldLayers := []
  /-- The guards that live, in the order in which they were given. -/
  guards : List LockGuard := []

inductive LockCall (μ : Type) where
  /-- Takes a lock, once whoever else has it has given it back. -/
  | lock (i : Nat)
  | tryLock (i : Nat)
  | drop (g : LockGuard)
  /-- What others leave of the locks and the monitors. -/
  | elsewhere (locks : List CountingLock) (monitor : μ → Monitor)

namespace LockThread

variable {μ : Type} [DecidableEq μ]

def row (t : LockThread μ) (i : Nat) : LockRow := ⟨t.locks, t.held, t.monitor (t.watchedBy i)⟩

def guardsWith (t : LockThread μ) (i : Nat) (taken : Bool) : List LockGuard :=
  if taken then t.guards ++ (t.locks[i]?.map fun k => ⟨i, k.layer⟩).toList else t.guards

def leaving (t : LockThread μ) (i : Nat) (r : LockRow) (guards : List LockGuard) : LockThread μ :=
  { t with
    locks := r.locks
    monitor := Function.update t.monitor (t.watchedBy i) r.monitor
    held := r.held
    guards }

/-- The thread after a call.  A lock that a strict monitor halts gives no guard, nor does one that is tried in vain. -/
def perform (t : LockThread μ) : LockCall μ → LockThread μ
  | .lock i => t.leaving i ((t.row i).lock i).2 (t.guardsWith i ((t.row i).lock i).1.isOk)
  | .tryLock i => t.leaving i ((t.row i).tryLock i).2 (t.guardsWith i ((t.row i).tryLock i).1.isSome)
  | .drop g => t.leaving g.lock ((t.row g.lock).unlock g.lock) (t.guards.erase g)
  | .elsewhere locks monitor => { t with locks, monitor }

def after (t : LockThread μ) (calls : List (LockCall μ)) : LockThread μ := calls.foldl perform t

def recorded (t : LockThread μ) (i : Nat) (v : Violation) : μ → Monitor :=
  Function.update t.monitor (t.watchedBy i) ((t.monitor (t.watchedBy i)).record v)

/-! ## Calls that can be made -/

omit [DecidableEq μ] in
/-- Whether a call can be made: a thread does not wait for a lock that it has, and drops guards that it has; others do
not touch the locks that it has. -/
def Can (t : LockThread μ) : LockCall μ → Prop
  | .lock i => i < t.locks.length ∧ ∀ g ∈ t.guards, g.lock ≠ i
  | .tryLock _ => True
  | .drop g => g ∈ t.guards
  | .elsewhere locks _ => ∀ g ∈ t.guards, locks[g.lock]? = t.locks[g.lock]?

omit [DecidableEq μ] in
instance decidableCan (t : LockThread μ) : (c : LockCall μ) → Decidable (t.Can c)
  | .lock i => inferInstanceAs (Decidable (i < t.locks.length ∧ ∀ g ∈ t.guards, g.lock ≠ i))
  | .tryLock _ => inferInstanceAs (Decidable True)
  | .drop g => inferInstanceAs (Decidable (g ∈ t.guards))
  | .elsewhere locks _ => inferInstanceAs (Decidable (∀ g ∈ t.guards, locks[g.lock]? = t.locks[g.lock]?))

def Allows (t : LockThread μ) : List (LockCall μ) → Prop
  | [] => True
  | c :: calls => t.Can c ∧ (t.perform c).Allows calls

instance decidableAllows : (t : LockThread μ) → (calls : List (LockCall μ)) → Decidable (t.Allows calls)
  | _, [] => inferInstanceAs (Decidable True)
  | t, c :: calls =>
    have := decidableAllows (t.perform c) calls
    inferInstanceAs (Decidable (t.Can c ∧ (t.perform c).Allows calls))

variable {t : LockThread μ} {i : Nat} {k : CountingLock} {h : Layer} {g : LockGuard} {c : LockCall μ}

theorem after_concat (t : LockThread μ) (calls : List (LockCall μ)) (c : LockCall μ) :
    t.after (calls ++ [c]) = (t.after calls).perform c := by
  rw [after, List.foldl_append]
  rfl

theorem allows_append : ∀ {calls calls' : List (LockCall μ)} {t : LockThread μ},
    t.Allows (calls ++ calls') ↔ t.Allows calls ∧ (t.after calls).Allows calls'
  | [], _, _ => (and_iff_right trivial).symm
  | c :: calls, calls', t => by
    rw [List.cons_append, Allows, Allows, allows_append, and_assoc]
    rfl

/-! ## What a call does -/

theorem perform_lock_of_halted (hk : t.locks[i]? = some k) (ho : t.held.obstacle k.layer = some h)
    (hs : (t.monitor (t.watchedBy i)).strict = true) :
    t.perform (.lock i) = { t with monitor := t.recorded i (k.layer.breach h) } := by
  have hv : (t.row i).checkOrder k.layer = some (k.layer.breach h) := congrArg (Option.map k.layer.breach) ho
  rw [perform, LockRow.lock_of_halted (r := t.row i) hk hv hs]
  rfl

theorem perform_lock_of_not_halted (hk : t.locks[i]? = some k)
    (hgo : ¬ ((t.monitor (t.watchedBy i)).strict = true ∧ t.held.obstacle k.layer ≠ none)) :
    t.perform (.lock i) =
      { t with
        locks := t.locks.modify i fun k => { k with value := k.value + 1, busy := true }
        monitor := (t.held.obstacle k.layer).elim t.monitor fun h => t.recorded i (k.layer.breach h)
        held := t.held.acquire k.layer
        guards := t.guards ++ [⟨i, k.layer⟩] } := by
  have hrow : ¬ ((t.row i).monitor.strict = true ∧ (t.row i).checkOrder k.layer ≠ none) := by
    simpa [LockRow.checkOrder, row] using hgo
  rw [perform, LockRow.lock_of_not_halted (r := t.row i) hk hrow]
  cases ho : t.held.obstacle k.layer <;>
    simp [leaving, guardsWith, row, recorded, LockRow.update, LockRow.checkOrder, ho, hk, Except.isOk, Except.toBool]

theorem perform_tryLock_of_none (hk : t.locks[i]? = none) : t.perform (.tryLock i) = t := by
  rw [perform, LockRow.tryLock_of_none (r := t.row i) hk]
  simp [leaving, guardsWith, row]

theorem perform_tryLock_of_busy (hk : t.locks[i]? = some k) (hb : k.busy = true) : t.perform (.tryLock i) = t := by
  rw [perform, LockRow.tryLock_of_busy (r := t.row i) hk hb]
  simp [leaving, guardsWith, row]

theorem perform_tryLock_of_free (hk : t.locks[i]? = some k) (hb : k.busy = false) :
    t.perform (.tryLock i) =
      { t with
        locks := t.locks.modify i fun k => { k with busy := true }
        held := t.held.acquire k.layer
        guards := t.guards ++ [⟨i, k.layer⟩] } := by
  rw [perform, LockRow.tryLock_of_free (r := t.row i) hk hb]
  simp [leaving, guardsWith, row, LockRow.update, hk]

theorem perform_drop_of_busy (hk : t.locks[g.lock]? = some k) (hb : k.busy = true) :
    t.perform (.drop g) =
      { t with
        locks := t.locks.modify g.lock fun k => { k with busy := false }
        held := t.held.letGo k.layer
        guards := t.guards.erase g } := by
  rw [perform, LockRow.unlock_of_busy (r := t.row g.lock) hk hb]
  simp [leaving, row, LockRow.update]

/-- **What a lock records** is a breach of the order by the layer that stands in its way, if there is one. -/
theorem monitor_lock (hk : t.locks[i]? = some k) : (t.perform (.lock i)).monitor =
    (t.held.obstacle k.layer).elim t.monitor fun h => t.recorded i (k.layer.breach h) := by
  by_cases hhalt : (t.monitor (t.watchedBy i)).strict = true ∧ t.held.obstacle k.layer ≠ none
  · obtain ⟨h, ho⟩ := Option.ne_none_iff_exists'.1 hhalt.2
    rw [perform_lock_of_halted hk ho hhalt.1, ho]
    rfl
  · rw [perform_lock_of_not_halted hk hhalt]

theorem monitor_tryLock (t : LockThread μ) (i : Nat) : (t.perform (.tryLock i)).monitor = t.monitor := by
  rw [perform, leaving, LockRow.monitor_tryLock]
  exact Function.update_eq_self ..

theorem monitor_drop (t : LockThread μ) (g : LockGuard) : (t.perform (.drop g)).monitor = t.monitor := by
  rw [perform, leaving, LockRow.monitor_unlock]
  exact Function.update_eq_self ..

end LockThread
end Crossroads
