import Crossroads.Proofs.Traffic.Crossing
import Mathlib.Algebra.Ring.Nat
/-!
# What a slice does

A slice of a running lane cannot fail, and what it leaves can be read off the junction before it
(`Junction.sliced`): the first vehicles of the lane are served, up to a batch of them; the clock moves by one crossing
time unless nobody crosses or a stop was requested; and a lane that has drained waits.
-/
namespace Crossroads

open Act

variable {j : Junction} {l : Lane} {startMs endMs n waitMs : Nat} {a : Approach}

/-! ## Serving a batch -/

theorem PerLane.modify_modify {α : Type} (p : PerLane α) (l : Lane) (f g : α → α) :
    (p.modify l f).modify l g = p.modify l (fun x => g (f x)) := by
  rw [modify, modify, modify, get_set_self, set_set]

/-- The counters after so many vehicles of a lane were served, which have waited so long together. -/
def Metrics.recordBatch (m : Metrics) (l : Lane) (n waitMs : Nat) : Metrics :=
  { m with
    totalProcessed := m.totalProcessed + n
    laneThroughput := m.laneThroughput.modify l (· + n)
    laneWaitMs := m.laneWaitMs.modify l (· + waitMs) }

theorem Metrics.recordBatch_zero (m : Metrics) (l : Lane) : m.recordBatch l 0 0 = m := by
  simp [recordBatch, PerLane.modify]

theorem Metrics.recordBatch_recordServed (m : Metrics) (l : Lane) (ms n waitMs : Nat) :
    (m.recordServed l ms).recordBatch l n waitMs = m.recordBatch l (n + 1) (ms + waitMs) := by
  simp only [recordBatch, recordServed, PerLane.modify_modify, Nat.add_assoc, Nat.add_comm 1]

namespace Approach

/-- How long the first vehicles of a lane have waited at some moment, all together. -/
def waitOf (a : Approach) (startMs n : Nat) : Nat :=
  ((a.queue.vehicles.take n).map (fun v => startMs - v.arrivedMs)).sum

def serveFirst (a : Approach) (startMs n : Nat) : Approach :=
  { a with
    queue := { a.queue with vehicles := a.queue.vehicles.drop n }
    queueLength := a.queueLength - n
    totalServed := a.totalServed + n
    totalWaitMs := a.totalWaitMs + a.waitOf startMs n }

theorem serveFirst_succ {v : Vehicle} {vs : List Vehicle} (hc : a.traffic.Cached) (hq : a.queue.vehicles = v :: vs) :
    ({ a.withQueue vs with
      totalServed := a.totalServed + 1
      totalWaitMs := a.totalWaitMs + (startMs - v.arrivedMs) } : Approach).serveFirst startMs n =
      a.serveFirst startMs (n + 1) := by
  have hcached : a.queueLength = vs.length + 1 := Eq.trans hc (congrArg List.length hq)
  simp [serveFirst, withQueue, waitOf, hq, hcached, Nat.add_assoc, Nat.add_comm 1]

end Approach

/-- **What a batch comes to.** -/
theorem serveBatch_eq (l : Lane) (startMs : Nat) : ∀ (n : Nat) (a : Approach) (m : Metrics), a.traffic.Cached →
    serveBatch l startMs n a m = (min n a.queue.length, a.serveFirst startMs (min n a.queue.length),
      m.recordBatch l (min n a.queue.length) (a.waitOf startMs (min n a.queue.length)))
  | 0, a, m, _ => by
    rw [Nat.zero_min, serveBatch, Approach.waitOf]
    exact congrArg (fun m => (0, a, m)) (m.recordBatch_zero l).symm
  | n + 1, a, m, hc => by
    rw [serveBatch]
    cases hq : a.queue.vehicles with
    | nil =>
      rw [Approach.dequeue_of_nil hq, VehicleQueue.length, hq, List.length_nil, Nat.min_zero, Approach.waitOf]
      exact congrArg (fun m => (0, a, m)) (m.recordBatch_zero l).symm
    | cons v vs =>
      have hlen : min (n + 1) a.queue.length = min n vs.length + 1 := by
        rw [VehicleQueue.length, hq]
        exact Nat.succ_min_succ _ _
      have hwait : a.waitOf startMs (min n vs.length + 1) =
          startMs - v.arrivedMs + (a.withQueue vs).waitOf startMs (min n vs.length) := by
        simp [Approach.waitOf, Approach.withQueue, hq]
      have hrest := serveBatch_eq l startMs n { a.withQueue vs with
        totalServed := a.totalServed + 1
        totalWaitMs := a.totalWaitMs + (startMs - v.arrivedMs) } (m.recordServed l (startMs - v.arrivedMs)) rfl
      rw [Approach.dequeue_of_cons hq, hlen, hwait]
      refine (congrArg (fun out => (out.1 + 1, out.2)) hrest).trans ?_
      rw [← Approach.serveFirst_succ hc hq, ← m.recordBatch_recordServed]
      rfl

/-! ## The parts of a slice -/

namespace Approach

/-- The lane when so many of its vehicles begin to cross. -/
def opened (a : Approach) (startMs n : Nat) : Approach :=
  { a.serveFirst startMs n with
    lastServiceMs := if 0 < n then some startMs else a.lastServiceMs
    slicesConsumed := a.slicesConsumed + 1 }

def closed (a : Approach) : Approach := if a.state = .running ∧ a.queueLength = 0 then a.enter .waiting else a

theorem closed_traffic (a : Approach) : a.closed.traffic = a.traffic := by
  unfold closed
  split <;> rfl

theorem closed_lastServiceMs (a : Approach) : a.closed.lastServiceMs = a.lastServiceMs := by
  unfold closed
  split <;> rfl

theorem closed_priority (a : Approach) : a.closed.priority = a.priority := by
  unfold closed
  split <;> rfl

theorem closed_state (h : a.state = .running) : a.closed.state = if a.queueLength = 0 then .waiting else .running := by
  unfold closed
  by_cases hq : a.queueLength = 0
  · rw [if_pos ⟨h, hq⟩, if_pos hq]
    rfl
  · rw [if_neg fun hr => hq hr.2, if_neg hq, h]

end Approach

namespace Junction

/-- How many vehicles a slice of a lane clears. -/
def batch (j : Junction) (l : Lane) : Nat := min j.settings.batchSize (j.lanes.get l).queue.length

/-- How long a batch takes to cross; nobody waits for an empty one, or once a stop was requested. -/
def crossingMs (j : Junction) (n : Nat) : Nat := if 0 < n ∧ j.stopped = false then j.settings.crossTimeMs else 0

def sliceRecord (j : Junction) (l : Lane) : SliceRecord where
  lane := l
  startMs := j.clock
  endMs := j.clock + j.crossingMs (j.batch l)
  vehicles := j.batch l

def sliced (j : Junction) (l : Lane) : Junction :=
  { j with
    lanes := j.lanes.set l ((j.lanes.get l).opened j.clock (j.batch l)).closed
    metrics := (j.metrics.recordBatch l (j.batch l) ((j.lanes.get l).waitOf j.clock (j.batch l))).recordBusy
      (j.sliceRecord l).durationMs
    clock := j.clock + j.crossingMs (j.batch l)
    scheduler := { j.scheduler with
      history := (j.scheduler.history.push (j.sliceRecord l)).2
      sliceCount := if j.scheduler.current = some l then j.scheduler.sliceCount + 1 else j.scheduler.sliceCount } }

end Junction

open Junction

theorem runOn_openSlice (hr : j.Runs l) (hc : (j.lanes.get l).traffic.Cached) (startMs : Nat) :
    (openSlice l startMs).runOn j = (.ok (some (j.batch l)), { j with
      lanes := j.lanes.set l ((j.lanes.get l).opened startMs (j.batch l))
      metrics := j.metrics.recordBatch l (j.batch l) ((j.lanes.get l).waitOf startMs (j.batch l)) }) := by
  unfold openSlice
  rw [runOn_bind_of_ok (runOn_get j), if_pos (show (j.lanes.get l).state = .running from hr),
    serveBatch_eq l startMs _ _ _ hc]
  rfl

/-- Sleeping takes its time unless a stop was requested. -/
theorem runOn_discard_sleep (ms : Nat) (j : Junction) : (discard (sleep ms)).runOn j =
    (.ok (), { j with clock := j.clock + if j.stopped = false then ms else 0 }) := by
  rw [discard_eq, runOn_bind_of_ok (runOn_sleep ms j), runOn_pure]
  by_cases hs : j.stopped = true
  · rw [if_pos hs, if_neg fun h => Bool.false_ne_true (h.symm.trans hs)]
    rfl
  · rw [if_neg hs, if_pos (Bool.eq_false_iff.2 hs)]

theorem runOn_crossBatch (n : Nat) (j : Junction) :
    (crossBatch n).runOn j = (.ok (), { j with clock := j.clock + j.crossingMs n }) := by
  unfold crossBatch crossingMs
  by_cases hn : 0 < n
  · rw [if_pos hn, runOn_bind_of_ok (runOn_get j), runOn_discard_sleep]
    simp only [hn, true_and]
  · rw [if_neg hn, if_neg fun h => hn h.1]
    rfl

theorem runOn_closeSlice (l : Lane) (startMs endMs : Nat) (j : Junction) :
    (closeSlice l startMs endMs).runOn j = (.ok (), { j with
      lanes := j.lanes.set l (j.lanes.get l).closed
      metrics := j.metrics.recordBusy (endMs - startMs) }) := by
  unfold closeSlice Approach.closed
  rw [runOn_bind_of_ok (runOn_get j)]
  by_cases h : (j.lanes.get l).state = .running ∧ (j.lanes.get l).queueLength = 0
  · have hrun : (j.lanes.get l).transition l .waiting = .ok ((j.lanes.get l).enter .waiting) := by
      rw [Approach.transition, h.1, h.2]
      rfl
    rw [if_pos h, if_pos h, runOn_bind_of_ok (by rw [runOn_tryOnLane, hrun])]
    rfl
  · rw [if_neg h, if_neg h, PerLane.set_get]
    rfl

/-- **What a slice of a running lane does.** -/
theorem runOn_executeSlice (hr : j.Runs l) (hc : (j.lanes.get l).traffic.Cached) :
    (executeSlice l).runOn j = (.ok (some (j.sliceRecord l)), j.sliced l) := by
  unfold executeSlice
  rw [runOn_bind_of_ok (runOn_get j), runOn_bind_of_ok (runOn_openSlice hr hc j.clock), finishSlice,
    runOn_bind_of_ok (runOn_crossBatch _ _), runOn_bind_of_ok (runOn_get _),
    runOn_bind_of_ok (runOn_closeSlice ..), PerLane.get_set_self, PerLane.set_set]
  rfl

theorem runOn_executeSlice_of_not_runs (hr : ¬ j.Runs l) : (executeSlice l).runOn j = (.ok none, j) := by
  have hopen : (openSlice l j.clock).runOn j = (.ok none, j) := by
    unfold openSlice
    rw [runOn_bind_of_ok (runOn_get j), if_neg (show ¬ (j.lanes.get l).state = .running from hr)]
    rfl
  unfold executeSlice
  rw [runOn_bind_of_ok (runOn_get j), runOn_bind_of_ok hopen]
  rfl

/-! ## The emergency of the lane -/

/-- The junction after the pending emergency of a lane was completed, if there was one. -/
def Junction.completed (j : Junction) (l : Lane) : Junction :=
  { j with
    emergencies := (j.emergencies.resolve l).2
    metrics := (j.emergencies.slots.get l).elim j.metrics
      (fun ev => j.metrics.recordEmergencyHandled (j.scheduler.tick - ev.arrivalTick)) }

theorem runOn_completeEmergency (l : Lane) (j : Junction) :
    (completeEmergency l).runOn j = (.ok (j.emergencies.resolve l).1, j.completed l) := by
  unfold completeEmergency completed
  rw [runOn_bind_of_ok (runOn_get j), runOn_bind_of_ok (runOn_onEmergencies _ j), Emergencies.resolve]
  cases j.emergencies.slots.get l with
  | none => rfl
  | some ev => rfl

end Crossroads
