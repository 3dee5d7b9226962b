import Crossroads.Proofs.Traffic.Quiet
/-!
# Crossing

A step moves traffic once: one lane crosses with as many vehicles as a batch holds, and its emergency is complete.
What a step does besides is quiet, so its record says everything that happens to the traffic (`step_ok`).
-/
namespace Crossroads

open Act

/-- The lane without the first vehicles of its queue. -/
def LaneTraffic.serve (t : LaneTraffic) (n : Nat) : LaneTraffic where
  queue := { t.queue with vehicles := t.queue.vehicles.drop n }
  queueLength := t.queueLength - n
  totalArrivals := t.totalArrivals
  totalServed := t.totalServed + n

/-- The cached length is that of the queue. -/
def LaneTraffic.Cached (t : LaneTraffic) : Prop := t.queueLength = t.queue.length

theorem LaneTraffic.Cached.serve {t : LaneTraffic} (h : t.Cached) (n : Nat) : (t.serve n).Cached := by
  show t.queueLength - n = (t.queue.vehicles.drop n).length
  rw [List.length_drop, h]
  rfl

theorem Approach.queue_isEmpty_iff {a : Approach} (h : a.traffic.Cached) :
    a.queue.isEmpty = true ↔ a.queueLength = 0 := by
  have hlen : a.queueLength = a.queue.vehicles.length := h
  rw [hlen, VehicleQueue.isEmpty, List.isEmpty_iff, List.length_eq_zero_iff]

namespace Traffic

def pass (t : Traffic) : Traffic := { t with passes := t.passes + 1 }

/-- The first vehicles of a lane cross. -/
def serve (t : Traffic) (l : Lane) (n : Nat) : Traffic :=
  { t with
    lanes := t.lanes.modify l (·.serve n)
    tally := { t.tally with processed := t.tally.processed + n } }

/-- The pending emergency of a lane is handled, if there is one. -/
def complete (t : Traffic) (l : Lane) : Traffic :=
  { t with
    emergencies := (t.emergencies.resolve l).2
    tally := { t.tally with
      handled := t.tally.handled + (t.emergencies.isPending l).toNat
      responseTicks := t.tally.responseTicks + (t.emergencies.slots.get l).elim 0 (t.passes - ·.arrivalTick) } }

/-- What a step with a record comes to. -/
def crossing (t : Traffic) : Option SliceRecord → Traffic
  | none => t
  | some r => (t.serve r.lane r.vehicles).complete r.lane

def Cached (t : Traffic) : Prop := ∀ l, (t.lanes.get l).Cached

/-- A record counts as many vehicles as the lane has, up to the size of a batch. -/
def Batch (t : Traffic) (record : Option SliceRecord) : Prop :=
  ∀ r, record = some r → r.vehicles = min t.batchSize (t.lanes.get r.lane).queue.length

theorem batch_none (t : Traffic) : t.Batch none := nofun

end Traffic

/-! ## Batches -/

namespace Approach

variable {a : Approach} {v : Vehicle} {vs : List Vehicle}

structure Served (a : Approach) (m : Metrics) (n : Nat) (out : Nat × Approach × Metrics) : Prop where
  count : out.1 = min n a.queue.length
  lane : out.2.1.traffic = a.traffic.serve (min n a.queue.length)
  tally : out.2.2.tally = { m.tally with processed := m.tally.processed + min n a.queue.length }

theorem Served.nothing {m : Metrics} {n : Nat} (h : min n a.queue.length = 0) : a.Served m n (0, a, m) :=
  ⟨h.symm, by rw [h]; rfl, by rw [h]; rfl⟩

theorem Served.cons {m : Metrics} {n waitMs ms k : Nat} {b : Approach} {m' : Metrics} (hc : a.traffic.Cached)
    (h : a.queue.vehicles = v :: vs) (l : Lane)
    (hs : Served { a.withQueue vs with totalServed := a.totalServed + 1, totalWaitMs := waitMs } (m.recordServed l ms) n
      (k, b, m')) : a.Served m (n + 1) (k + 1, b, m') := by
  have hlen : a.queue.length = vs.length + 1 := congrArg List.length h
  have hcached : a.queueLength = vs.length + 1 := Eq.trans hc hlen
  have hmin : min (n + 1) a.queue.length = min n vs.length + 1 := by
    rw [hlen]
    exact Nat.succ_min_succ _ _
  refine ⟨?_, ?_, ?_⟩ <;> rw [hmin]
  · exact congrArg (· + 1) hs.count
  · refine hs.lane.trans ?_
    show LaneTraffic.mk { a.queue with vehicles := vs.drop (min n vs.length) } (vs.length - min n vs.length)
        a.totalArrivals (a.totalServed + 1 + min n vs.length) =
      ⟨{ a.queue with vehicles := a.queue.vehicles.drop (min n vs.length + 1) },
        a.queueLength - (min n vs.length + 1), a.totalArrivals, a.totalServed + (min n vs.length + 1)⟩
    rw [h, hcached, List.drop_succ_cons, Nat.add_sub_add_right, Nat.add_assoc, Nat.add_comm 1]
  · refine hs.tally.trans ?_
    show ({ m.tally with processed := m.totalProcessed + 1 + min n vs.length } : Tally) =
      { m.tally with processed := m.totalProcessed + (min n vs.length + 1) }
    rw [Nat.add_assoc, Nat.add_comm 1]

end Approach

theorem serveBatch_served (l : Lane) (startMs : Nat) : ∀ (n : Nat) (a : Approach) (m : Metrics), a.traffic.Cached →
    a.Served m n (serveBatch l startMs n a m)
  | 0, a, m, _ => .nothing (Nat.zero_min _)
  | n + 1, a, m, hc => by
    rw [serveBatch]
    cases hq : a.queue.vehicles with
    | nil =>
      rw [Approach.dequeue_of_nil hq]
      refine .nothing ?_
      rw [VehicleQueue.length, hq]
      exact Nat.min_zero _
    | cons v vs =>
      rw [Approach.dequeue_of_cons hq]
      exact .cons hc hq l (serveBatch_served l startMs n _ _ rfl)

/-! ## Slices -/

variable {j i : Junction} {l : Lane} {startMs : Nat}

theorem Junction.cached_lane (hc : j.traffic.Cached) (l : Lane) : (j.lanes.get l).traffic.Cached := by
  have h := hc l
  rwa [traffic_lanes_get] at h

theorem openSlice_ok {opened : Option Nat} (hc : j.traffic.Cached)
    (h : (openSlice l startMs).runOn j = (.ok opened, i)) :
    (opened = none ∧ i.traffic = j.traffic) ∨
      ∃ n, opened = some n ∧ n = min j.settings.batchSize (j.lanes.get l).queue.length ∧
        i.traffic = j.traffic.serve l n := by
  have hserved := serveBatch_served l startMs j.settings.batchSize (j.lanes.get l) j.metrics (j.cached_lane hc l)
  unfold openSlice at h
  rw [runOn_bind_of_ok (runOn_get j)] at h
  dsimp only at h
  split at h
  · generalize serveBatch l startMs j.settings.batchSize (j.lanes.get l) j.metrics = out at h hserved
    obtain ⟨n, a, m⟩ := out
    obtain ⟨hn, ha, hm⟩ := hserved
    dsimp only at h hn ha hm
    rw [runOn_bind_of_ok (runOn_modify _ j)] at h
    cases h
    refine .inr ⟨n, rfl, hn, ?_⟩
    have hlane := Junction.traffic_set_lane { j with metrics := m } l { a with
      lastServiceMs := if 0 < n then some startMs else a.lastServiceMs
      slicesConsumed := a.slicesConsumed + 1 }
    refine Eq.trans hlane ?_
    show ({ j.traffic with lanes := j.traffic.lanes.set l a.traffic, tally := m.tally } : Traffic) = _
    rw [ha, hm, ← hn, ← Junction.traffic_lanes_get]
    rfl
  · cases h
    exact .inl ⟨rfl, rfl⟩

theorem finishSlice_some_ok {n : Nat} {record : Option SliceRecord}
    (h : (finishSlice l startMs (some n)).runOn j = (.ok record, i)) :
    i.traffic = j.traffic ∧ ∃ r, record = some r ∧ r.lane = l ∧ r.vehicles = n := by
  refine ⟨(finishSlice_quiet l startMs (some n)).traffic_eq h, ?_⟩
  obtain ⟨_, j₁, -, h⟩ := runOn_bind_eq_ok.1 h
  rw [runOn_bind_of_ok (runOn_get j₁)] at h
  obtain ⟨_, j₂, -, h⟩ := runOn_bind_eq_ok.1 h
  obtain ⟨_, j₃, -, h⟩ := runOn_bind_eq_ok.1 h
  cases h
  exact ⟨_, rfl, rfl, rfl⟩

/-- **What a slice does to the traffic.** -/
theorem executeSlice_ok {record : Option SliceRecord} (hc : j.traffic.Cached)
    (h : (executeSlice l).runOn j = (.ok record, i)) :
    (record = none ∧ i.traffic = j.traffic) ∨
      ∃ r, record = some r ∧ r.lane = l ∧ j.traffic.Batch record ∧ i.traffic = j.traffic.serve l r.vehicles := by
  unfold executeSlice at h
  rw [runOn_bind_of_ok (runOn_get j)] at h
  obtain ⟨opened, j₁, hopen, h⟩ := runOn_bind_eq_ok.1 h
  rcases openSlice_ok hc hopen with ⟨rfl, ht⟩ | ⟨n, rfl, hn, ht⟩
  · cases h
    exact .inl ⟨rfl, ht⟩
  · obtain ⟨hquiet, r, rfl, rfl, rfl⟩ := finishSlice_some_ok h
    refine .inr ⟨r, rfl, rfl, fun r' hr' => ?_, hquiet.trans ht⟩
    cases hr'
    rw [hn, Junction.traffic_lanes_get]
    rfl

theorem completeEmergency_ok {resolved : Option EmergencyEvent} (h : (completeEmergency l).runOn j = (.ok resolved, i)) :
    i.traffic = j.traffic.complete l := by
  unfold completeEmergency at h
  rw [runOn_bind_of_ok (runOn_get j), runOn_bind_of_ok (runOn_onEmergencies _ j)] at h
  have hslot : j.traffic.emergencies.slots.get l = j.emergencies.slots.get l := rfl
  rw [Traffic.complete, Emergencies.resolve, Emergencies.isPending, hslot]
  cases hs : j.emergencies.slots.get l with
  | none =>
    have hr : j.emergencies.resolve l = (none, j.emergencies) := by rw [Emergencies.resolve, hs]
    rw [hr] at h
    cases h
    rfl
  | some ev =>
    have hr : j.emergencies.resolve l = (some { ev with resolved := true }, ⟨j.emergencies.slots.set l none⟩) := by
      rw [Emergencies.resolve, hs]
    rw [hr, countResolved, runOn_bind_of_ok (runOn_onMetrics _ _)] at h
    cases h
    rfl

/-- **What a lane that was given the crossing does to the traffic.** -/
theorem serveLane_ok {served : Option SliceRecord × Bool} (hc : j.traffic.Cached)
    (h : (serveLane l).runOn j = (.ok served, i)) :
    j.traffic.Batch served.1 ∧ i.traffic = j.traffic.crossing served.1 := by
  cases serveLane_servesTo h with
  | denied hletIn => exact ⟨Traffic.batch_none _, (admits_quiet.admitLane l).traffic_eq hletIn⟩
  | crossed hletIn hslice hcomplete hrelease =>
    -- admission and release are quiet, so the slice and the emergency after it are all that happens
    have hj₁ := (admits_quiet.admitLane l).traffic_eq hletIn
    have hi := (admits_quiet.releaseLane l).traffic_eq hrelease
    rw [← hj₁] at hc
    rcases executeSlice_ok hc hslice with ⟨rfl, ht⟩ | ⟨r, rfl, rfl, hbatch, ht⟩
    · cases hcomplete
      exact ⟨Traffic.batch_none _, hi.trans (ht.trans hj₁)⟩
    · rw [completeServed, Option.isSome_some, if_pos rfl, discard_eq] at hcomplete
      obtain ⟨_, j₃, hcomplete, h⟩ := runOn_bind_eq_ok.1 hcomplete
      cases h
      rw [hj₁] at hbatch ht
      rw [hi, completeEmergency_ok hcomplete, ht]
      exact ⟨hbatch, rfl⟩

/-! ## Steps -/

theorem scheduleNext_ok {decision : Decision} (h : scheduleNext.runOn j = (.ok decision, i)) :
    i.traffic = j.traffic.pass := by
  unfold scheduleNext at h
  obtain ⟨_, j₁, htick, h⟩ := runOn_bind_eq_ok.1 h
  rw [runOn_bind_of_ok (runOn_get j₁)] at h
  have hj₁ : j₁.traffic = j.traffic.pass := by
    cases htick
    rfl
  rw [← hj₁]
  exact (serveDue_quiet _).traffic_eq h

/-- Before a step serves a lane it begins a pass, and leaves the traffic alone otherwise. -/
theorem Junction.PreparesTo.traffic_eq {tick : Nat} {decision : Decision} (h : j.PreparesTo tick decision i) :
    i.traffic = j.traffic.pass := by
  obtain ⟨htick, hback, hpass, hpay⟩ := h
  rw [(payOverhead_quiet decision).traffic_eq hpay, scheduleNext_ok hpass,
    admits_quiet.readmitEmergencies.traffic_eq hback, nextTick_quiet.traffic_eq htick]

theorem serveDecided_ok {target : Option Lane} {served : Option SliceRecord × Bool} (hc : j.traffic.Cached)
    (h : (serveDecided target).runOn j = (.ok served, i)) :
    j.traffic.Batch served.1 ∧ i.traffic = j.traffic.crossing served.1 := by
  cases target with
  | none =>
    cases h
    exact ⟨Traffic.batch_none _, rfl⟩
  | some l => exact serveLane_ok hc h

/-- What a step that answered did to the traffic. -/
def Traffic.stepped (t : Traffic) : StepOutcome → Traffic
  | .paused => t
  | .ran _ record _ _ => t.pass.crossing record

def StepOutcome.record : StepOutcome → Option SliceRecord
  | .paused => none
  | .ran _ record _ _ => record

/-- **What a step does to the traffic**: a pass begins, and then the lane of the record crosses. -/
theorem step_ok {outcome : StepOutcome} (hc : j.traffic.Cached) (h : step.runOn j = (.ok outcome, i)) :
    j.traffic.Batch outcome.record ∧ i.traffic = j.traffic.stepped outcome := by
  cases step_stepsTo h with
  | paused => exact ⟨Traffic.batch_none _, rfl⟩
  | @ran tick decision served resolutions j₁ j₂ _ hprepare hserve hsweep =>
    have hj₁ := hprepare.traffic_eq
    obtain ⟨hbatch, hj₂⟩ := serveDecided_ok (hj₁ ▸ hc) hserve
    rw [hj₁] at hbatch hj₂
    exact ⟨hbatch, ((sweeps_quiet.sweepEvery tick).traffic_eq hsweep).trans hj₂⟩

/-! ## Order -/

theorem openSlice_orderly (l : Lane) (startMs : Nat) : (openSlice l startMs).Orderly :=
  .bind .get fun _ => Orderly.composes.ite (.bind (.of_ok fun _ => ⟨_, _, rfl, .refl⟩) fun _ => .pure _) (.pure none)

theorem executeSlice_orderly (l : Lane) : (executeSlice l).Orderly :=
  Orderly.composes.executeSlice (openSlice_orderly l) fun _ _ => (finishSlice_quiet l _ _).toOrderly

theorem completeEmergency_orderly (l : Lane) : (completeEmergency l).Orderly :=
  Orderly.composes.completeEmergency (.of_ok fun _ => ⟨_, _, rfl, .refl⟩) fun _ => .of_ok fun _ => ⟨_, _, rfl, .refl⟩

theorem scheduleNext_orderly : scheduleNext.Orderly :=
  Orderly.composes.scheduleNext (.of_ok fun _ => ⟨_, _, rfl, .refl⟩) fun due => (serveDue_quiet due).toOrderly

theorem Junction.PreparesTo.total_eq {tick : Nat} {decision : Decision} (h : j.PreparesTo tick decision i) :
    i.allocator.total = j.allocator.total := by
  obtain ⟨htick, hback, hpass, hpay⟩ := h
  rw [((payOverhead_quiet decision).deals.of_runOn hpay).total_eq, (scheduleNext_orderly.deals.of_runOn hpass).total_eq,
    (admits_quiet.readmitEmergencies.deals.of_runOn hback).total_eq, (nextTick_quiet.deals.of_runOn htick).total_eq]

theorem serveDecided_orderly (target : Option Lane) : (serveDecided target).Orderly :=
  Orderly.composes.serveDecided (fun l => (admits_quiet.admitLane l).toOrderly) executeSlice_orderly
    (fun l => Orderly.composes.completeServed (completeEmergency_orderly l))
    (fun l => (admits_quiet.releaseLane l).toOrderly) target

/-- **A step uses the allocator by its calls only, and can fail only with a breach.** -/
theorem step_orderly : step.Orderly :=
  Orderly.composes.step nextTick_quiet.toOrderly admits_quiet.readmitEmergencies.toOrderly scheduleNext_orderly
    (fun d => (payOverhead_quiet d).toOrderly) serveDecided_orderly fun tick => (sweeps_quiet.sweepEvery tick).toOrderly

end Crossroads
