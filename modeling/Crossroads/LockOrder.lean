import Crossroads.Monitor
/-!
# Layered locks

Every lock belongs to a layer, and a thread is to take locks in rising order of layer.  A thread's held layers are a
list, oldest first; letting a lock go removes the newest entry of its layer.  `lock` reports a breach when a layer at
or above its own is held already, and takes the lock all the same; `tryLock` never reports.
-/
namespace Crossroads

inductive Layer where
  | scheduler
  | emergency
  | metrics
  | lane
  | allocator
deriving DecidableEq

namespace Layer

def rank : Layer → Nat
  | scheduler => 0
  | emergency => 1
  | metrics   => 2
  | lane      => 3
  | allocator => 4

def text : Layer → String
  | scheduler => "scheduler"
  | emergency => "emergency"
  | metrics   => "metrics"
  | lane      => "lane"
  | allocator => "allocator"

def all : List Layer := [scheduler, emergency, metrics, lane, allocator]

def ofText? (s : String) : Option Layer := all.find? (fun l => l.text == s)

theorem ofText?_text (l : Layer) : ofText? l.text = some l := by cases l <;> rfl

theorem rank_inj {a b : Layer} : a.rank = b.rank → a = b := by cases a <;> cases b <;> decide

def breach (wanted held : Layer) : Violation :=
  ⟨.lockOrder, "acquiring " ++ wanted.text ++ " lock while holding " ++ held.text ++ " lock"⟩

end Layer

/-- The layers a thread holds, oldest first. -/
abbrev HeldLayers := List Layer

namespace HeldLayers

def highest : HeldLayers → Option Layer
  | []      => none
  | a :: as => some (as.foldl (fun best x => if best.rank < x.rank then x else best) a)

/-- The highest held layer, if it stands in the way of locking another. -/
def obstacle (held : HeldLayers) (wanted : Layer) : Option Layer :=
  held.highest.filter (fun h => wanted.rank ≤ h.rank)

def acquire (held : HeldLayers) (l : Layer) : HeldLayers := held ++ [l]

/-- The held layers after a lock of the layer is let go: the newest entry of that layer goes. -/
def letGo (held : HeldLayers) (l : Layer) : HeldLayers := (held.reverse.erase l).reverse

theorem count_acquire (held : HeldLayers) (l m : Layer) :
    (held.acquire l).count m = held.count m + if l = m then 1 else 0 := by
  rw [acquire, List.count_append, List.count_singleton]
  simp only [beq_iff_eq]

theorem count_letGo (held : HeldLayers) (l m : Layer) :
    (held.letGo l).count m = if l = m then held.count m - 1 else held.count m := by
  unfold letGo
  rw [List.count_reverse, List.count_erase, List.count_reverse]
  by_cases h : l = m <;> simp [h]

theorem letGo_acquire (held : HeldLayers) (l : Layer) : (held.acquire l).letGo l = held := by
  rw [letGo, acquire, List.reverse_concat, List.erase_cons_head, List.reverse_reverse]

end HeldLayers

structure CountingLock where
  layer : Layer
  value : Nat := 0
  busy : Bool := false
deriving DecidableEq

structure LockRow where
  locks : List CountingLock
  held : HeldLayers := []
  monitor : Monitor := {}
deriving DecidableEq

namespace LockRow

def update (r : LockRow) (i : Nat) (f : CountingLock → CountingLock) : LockRow :=
  { r with locks := r.locks.modify i f }

def checkOrder (r : LockRow) (l : Layer) : Option Violation := (r.held.obstacle l).map l.breach

/-- Takes lock `i`, adds one to its counter and answers the sum.  A breach is reported first; it halts the thread, with
the lock not taken, exactly when the monitor is strict. -/
def lock (r : LockRow) (i : Nat) : Except Violation Nat × LockRow :=
  match r.locks[i]? with
  | none => (.ok 0, r)
  | some k =>
    let taken (r : LockRow) : Except Violation Nat × LockRow :=
      (.ok (k.value + 1),
        { r.update i (fun k => { k with value := k.value + 1, busy := true }) with held := r.held.acquire k.layer })
    match r.checkOrder k.layer with
    | none => taken r
    | some v =>
      match r.monitor.report v with
      | (.error v, monitor) => (.error v, { r with monitor })
      | (.ok (), monitor) => taken { r with monitor }

def tryLock (r : LockRow) (i : Nat) : Option Nat × LockRow :=
  match r.locks[i]? with
  | none => (none, r)
  | some k =>
    if k.busy then (none, r)
    else (some k.value,
      { r.update i (fun k => { k with busy := true }) with held := r.held.acquire k.layer })

def unlock (r : LockRow) (i : Nat) : LockRow :=
  match r.locks[i]? with
  | none => r
  | some k =>
    if k.busy then { r.update i (fun k => { k with busy := false }) with held := r.held.letGo k.layer } else r

variable {r : LockRow} {i : Nat} {k : CountingLock} {v : Violation}

theorem lock_of_halted (hi : r.locks[i]? = some k) (hv : r.checkOrder k.layer = some v)
    (hs : r.monitor.strict = true) : r.lock i = (.error v, { r with monitor := r.monitor.record v }) := by
  simp [lock, Monitor.report, hi, hv, hs]

theorem lock_of_not_halted (hi : r.locks[i]? = some k)
    (hgo : ¬ (r.monitor.strict = true ∧ r.checkOrder k.layer ≠ none)) :
    r.lock i = (.ok (k.value + 1),
      { r.update i (fun k => { k with value := k.value + 1, busy := true }) with
        held := r.held.acquire k.layer
        monitor := (r.checkOrder k.layer).elim r.monitor r.monitor.record }) := by
  cases hv : r.checkOrder k.layer with
  | none => simp [lock, update, hi, hv]
  | some v =>
    have hs : r.monitor.strict = false := by simpa [hv] using hgo
    simp [lock, update, Monitor.report, hi, hv, hs]

theorem tryLock_of_none (hi : r.locks[i]? = none) : r.tryLock i = (none, r) := by simp [tryLock, hi]

theorem tryLock_of_busy (hi : r.locks[i]? = some k) (hk : k.busy = true) : r.tryLock i = (none, r) := by
  simp [tryLock, hi, hk]

theorem tryLock_of_free (hi : r.locks[i]? = some k) (hk : k.busy = false) :
    r.tryLock i = (some k.value,
      { r.update i (fun k => { k with busy := true }) with held := r.held.acquire k.layer }) := by
  simp [tryLock, hi, hk]

theorem monitor_tryLock (r : LockRow) (i : Nat) : (r.tryLock i).2.monitor = r.monitor := by
  unfold tryLock
  split
  · rfl
  · split <;> rfl

theorem unlock_of_free (hi : r.locks[i]? = some k) (hk : k.busy = false) : r.unlock i = r := by simp [unlock, hi, hk]

theorem unlock_of_busy (hi : r.locks[i]? = some k) (hk : k.busy = true) :
    r.unlock i = { r.update i (fun k => { k with busy := false }) with held := r.held.letGo k.layer } := by
  simp [unlock, hi, hk]

theorem monitor_unlock (r : LockRow) (i : Nat) : (r.unlock i).monitor = r.monitor := by
  unfold unlock
  split
  · rfl
  · split <;> rfl

end LockRow

end Crossroads
