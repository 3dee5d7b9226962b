import Crossroads.Proofs.Steps.Slice
/-!
# The ledger

The same things are counted by the lanes, by the scheduler and by the metrics, at different moments of a step.  The
ledger of a junction is what they have counted (`Junction.ledger`).  Most actions leave it alone, however they end
(`Act.Leaves`); what the others write is said once for each of them.
-/
namespace Crossroads

open Act

variable {j i : Junction} {l : Lane} {α β : Type}

structure LaneAccount where
  served : Nat
  waitMs : Nat

structure MetricsAccount where
  processed : Nat
  throughput : PerLane Nat
  waitMs : PerLane Nat
  switches : Nat
  overheadMs : Nat
  prevented : Nat
  resolved : Nat
  busyMs : Nat

structure SchedulerAccount where
  switches : Nat
  passes : Nat
  history : Ring SliceRecord

/-- What a junction has counted, and the terms on which it counts. -/
structure Ledger where
  config : Config
  settings : Settings
  lanes : PerLane LaneAccount
  metrics : MetricsAccount
  scheduler : SchedulerAccount
  steps : Nat

def Approach.account (a : Approach) : LaneAccount := ⟨a.totalServed, a.totalWaitMs⟩

def Metrics.account (m : Metrics) : MetricsAccount where
  processed := m.totalProcessed
  throughput := m.laneThroughput
  waitMs := m.laneWaitMs
  switches := m.contextSwitches
  overheadMs := m.switchOverheadMs
  prevented := m.deadlocksPrevented
  resolved := m.deadlocksResolved
  busyMs := m.busyMs

def Scheduler.account (s : Scheduler) : SchedulerAccount := ⟨s.contextSwitches, s.tick, s.history⟩

namespace Junction

def ledger (j : Junction) : Ledger where
  config := j.config
  settings := j.settings
  lanes := j.lanes.map Approach.account
  metrics := j.metrics.account
  scheduler := j.scheduler.account
  steps := j.tick

theorem ledger_set_lane (j : Junction) (l : Lane) (a : Approach) :
    ({ j with lanes := j.lanes.set l a } : Junction).ledger =
      { j.ledger with lanes := j.ledger.lanes.set l a.account } := by
  show ({ j.ledger with lanes := (j.lanes.set l a).map Approach.account } : Ledger) = _
  rw [PerLane.map_set]
  rfl

theorem ledger_lanes_get (j : Junction) (l : Lane) : j.ledger.lanes.get l = (j.lanes.get l).account :=
  PerLane.get_map _ _ _

theorem ledger_set_lane_of_eq {a : Approach} (h : a.account = (j.lanes.get l).account) :
    ({ j with lanes := j.lanes.set l a } : Junction).ledger = j.ledger := by
  rw [ledger_set_lane, h, ← ledger_lanes_get, PerLane.set_get]

end Junction

/-! ## What is written -/

namespace Ledger

def step (k : Ledger) : Ledger := { k with steps := k.steps + 1 }

def pass (k : Ledger) : Ledger := { k with scheduler := { k.scheduler with passes := k.scheduler.passes + 1 } }

def switch (k : Ledger) : Ledger :=
  { k with
    scheduler := { k.scheduler with switches := k.scheduler.switches + 1 }
    metrics := { k.metrics with
      switches := k.metrics.switches + 1
      overheadMs := k.metrics.overheadMs + k.settings.contextSwitchMs } }

def deny (k : Ledger) : Ledger := { k with metrics := { k.metrics with prevented := k.metrics.prevented + 1 } }

def resolve (k : Ledger) (n : Nat) : Ledger :=
  { k with metrics := { k.metrics with resolved := k.metrics.resolved + n } }

/-- A slice is made, whose vehicles have waited so long together. -/
def slice (k : Ledger) (r : SliceRecord) (waitMs : Nat) : Ledger :=
  { k with
    lanes := k.lanes.modify r.lane (fun a => ⟨a.served + r.vehicles, a.waitMs + waitMs⟩)
    metrics := { k.metrics with
      processed := k.metrics.processed + r.vehicles
      throughput := k.metrics.throughput.modify r.lane (· + r.vehicles)
      waitMs := k.metrics.waitMs.modify r.lane (· + waitMs)
      busyMs := k.metrics.busyMs + r.durationMs }
    scheduler := { k.scheduler with history := (k.scheduler.history.push r).2 } }

end Ledger

/-! ## What writes nothing -/

def Junction.SameLedger (j i : Junction) : Prop := i.ledger = j.ledger

instance : IsPreorder Junction Junction.SameLedger where
  refl _ := rfl
  trans _ _ _ h k := Eq.trans k h

namespace Act

/-- An action that leaves the ledger as it is, however it ends. -/
def Leaves (a : Act α) : Prop := a.Moves Junction.SameLedger

namespace Leaves

theorem ledger_eq {a : Act α} (h : a.Leaves) {r : Except Fault α} (hrun : a.runOn j = (r, i)) :
    i.ledger = j.ledger := Moves.of_runOn h hrun

theorem composes : Composes Leaves := Moves.composes

end Leaves
end Act

namespace Junction.SameLedger

theorem onScheduler {f : Scheduler → Scheduler} (h : ∀ s, (f s).account = s.account) : (onScheduler f).Leaves :=
  fun j => congrArg (Ledger.mk j.config j.settings _ j.metrics.account · j.tick) (h j.scheduler)

theorem onMetrics {f : Metrics → Metrics} (h : ∀ m, (f m).account = m.account) : (onMetrics f).Leaves :=
  fun j => congrArg (Ledger.mk j.config j.settings _ · j.scheduler.account j.tick) (h j.metrics)

theorem onAllocator (f : Allocator → α × Allocator) : (onAllocator f).Leaves := fun _ => rfl

theorem onEmergencies (f : Emergencies → α × Emergencies) : (onEmergencies f).Leaves := fun _ => rfl

theorem onLane (l : Lane) {f : Approach → Approach} (h : ∀ a, (f a).account = a.account) : (onLane l f).Leaves :=
  fun _ => Junction.ledger_set_lane_of_eq (h _)

theorem tryOnLane (l : Lane) {f : Approach → Except TrafficError Approach}
    (h : ∀ a b, f a = .ok b → b.account = a.account) : (tryOnLane l f).Leaves :=
  Moves.of_lane fun _ b hb => Junction.ledger_set_lane_of_eq (h _ b hb)

theorem report (v : Violation) : (report v).Leaves := fun j => by
  rw [runOn_report]
  rfl

theorem sleep (ms : Nat) : (sleep ms).Leaves := fun j => by
  rw [runOn_sleep]
  split <;> rfl

end Junction.SameLedger

/-! ### Lanes -/

namespace Approach

variable {a b : Approach} {s : LaneState}

theorem account_of_transition (h : a.transition l s = .ok b) : b.account = a.account := by
  unfold transition at h
  split at h <;> cases h
  rfl

theorem account_of_unblock (h : a.unblock l = .ok b) : b.account = a.account := by
  unfold unblock at h
  split at h
  · exact account_of_transition (a := { a with requestedQuadrants := 0 }) h
  · cases h
    rfl

theorem account_forceRunning (a : Approach) : a.forceRunning.account = a.account := by
  unfold forceRunning
  split <;> rfl

theorem account_turned (a : Approach) : a.turned.account = a.account := by
  unfold turned
  split
  · rfl
  split <;> rfl

theorem account_aged (a : Approach) : a.aged.account = a.account := by
  unfold aged
  split <;> rfl

theorem account_of_tick (h : a.tick l = .ok b) : b.account = a.account := by
  rw [tick_eq] at h
  cases h
  exact (account_aged _).trans (account_turned a)

end Approach

theorem shifts_leaves : Shifts Leaves where
  toComposes := Leaves.composes
  report := .report
  refuse _ := Moves.refuse _
  leave l := .tryOnLane l fun _ _ h => Approach.account_of_transition h
  enter l := .tryOnLane l fun _ _ h => Approach.account_of_transition h
  force l := .onLane l Approach.account_forceRunning
  renew _ := .onScheduler fun _ => by split <;> rfl

theorem retries_leaves : Retries Leaves where
  toComposes := Leaves.composes
  retry _ := .onAllocator _
  release _ := .onAllocator _
  note l _ _ := .onLane l fun _ => rfl
  unblock l := .tryOnLane l fun _ _ h => Approach.account_of_unblock h

theorem swapPolicy_leaves (p : Policy) : (swapPolicy p).Leaves := shifts_leaves.swapPolicy (.onScheduler fun _ => rfl)

theorem standDown_leaves (l : Lane) : (standDown l).Leaves :=
  Leaves.composes.standDown (.onLane l fun _ => rfl) (.tryOnLane l fun _ _ h => Approach.account_of_transition h)

theorem completeServed_leaves (l : Lane) (record : Option SliceRecord) : (completeServed l record).Leaves :=
  Leaves.composes.completeServed (Leaves.composes.completeEmergency (.onEmergencies _) fun _ => .onMetrics fun _ => rfl)
    record

/-! ## What is written in a pass -/

theorem promote_forced {b : Bool} (h : (promote l true).runOn j = (.ok b, i)) : b = true := by
  cases h
  rfl

theorem takeOver_ledger {forced b : Bool} (h : (takeOver l forced).runOn j = (.ok b, i)) :
    i.ledger = (if b then j.ledger.switch else j.ledger) ∧ (forced = true → b = true) := by
  unfold takeOver at h
  obtain ⟨there, j₁, hpromote, h⟩ := runOn_bind_eq_ok.1 h
  have hj₁ : j₁.ledger = j.ledger := (shifts_leaves.promote l forced).ledger_eq hpromote
  split at h
  · rename_i hthere
    obtain ⟨_, j₂, hscheduler, h⟩ := runOn_bind_eq_ok.1 h
    rw [runOn_bind_of_ok (runOn_get j₂)] at h
    obtain ⟨_, j₃, hmetrics, h⟩ := runOn_bind_eq_ok.1 h
    obtain ⟨_, j₄, hcheck, h⟩ := runOn_bind_eq_ok.1 h
    cases h
    have hj₃ : j₃.ledger = j₁.ledger.switch := by
      cases hscheduler
      cases hmetrics
      rfl
    rw [shifts_leaves.checkMutualExclusion.ledger_eq hcheck, hj₃, hj₁]
    exact ⟨rfl, fun _ => rfl⟩
  · rename_i hthere
    obtain ⟨_, j₂, hscheduler, h⟩ := runOn_bind_eq_ok.1 h
    cases h
    cases hscheduler
    refine ⟨hj₁, fun hforced => ?_⟩
    subst hforced
    exact absurd (promote_forced hpromote) hthere

/-- **A context switch is written when the crossing changes hands**, and a forced one always is. -/
theorem contextSwitch_ledger {source : Option Lane} {forced b : Bool}
    (h : (contextSwitch source l forced).runOn j = (.ok b, i)) :
    i.ledger = (if b then j.ledger.switch else j.ledger) ∧ (forced = true → b = true) := by
  rw [contextSwitch_eq] at h
  cases hs : source.filter (· ≠ l) with
  | none =>
    rw [hs] at h
    exact takeOver_ledger h
  | some prev =>
    rw [hs] at h
    obtain ⟨_, j₁, hdemote, h⟩ := runOn_bind_eq_ok.1 h
    rw [← (shifts_leaves.demote prev).ledger_eq hdemote]
    exact takeOver_ledger h

/-- What a pass with a decision writes, the pass itself apart. -/
def Ledger.decide (k : Ledger) (d : Decision) : Ledger := if d.isSwitch then k.switch else k

theorem preempt_ledger {d : Decision} (h : (preempt l).runOn j = (.ok d, i)) : i.ledger = j.ledger.decide d := by
  unfold preempt at h
  rw [runOn_bind_of_ok (runOn_get j)] at h
  split at h
  · cases h
    rfl
  · rw [discard_eq] at h
    obtain ⟨_, j₁, hswitch, h⟩ := runOn_bind_eq_ok.1 h
    obtain ⟨b, j₂, hswitch, hdone⟩ := runOn_bind_eq_ok.1 hswitch
    cases hdone
    cases h
    obtain ⟨hledger, hforced⟩ := contextSwitch_ledger hswitch
    rw [hforced rfl] at hledger
    exact hledger

theorem keepRunning_ledger {running : Option Lane} {d : Decision} (h : (keepRunning running).runOn j = (.ok d, i)) :
    i.ledger = j.ledger.decide d := by
  have hledger := (shifts_leaves.keepRunning running).ledger_eq h
  cases running with
  | none =>
    cases h
    rfl
  | some l =>
    cases h
    exact hledger

theorem handOver_ledger {running : Option Lane} {d : Decision} (h : (handOver running l).runOn j = (.ok d, i)) :
    i.ledger = j.ledger.decide d := by
  unfold handOver at h
  rw [runOn_bind_of_ok (runOn_get j)] at h
  obtain ⟨b, j₁, hswitch, h⟩ := runOn_bind_eq_ok.1 h
  obtain ⟨hledger, -⟩ := contextSwitch_ledger hswitch
  split at h
  · rename_i hb
    cases h
    rwa [if_pos hb] at hledger
  · rename_i hb
    rw [if_neg hb] at hledger
    cases running <;> cases h <;> exact hledger

theorem passByPolicy_ledger {d : Decision} (h : passByPolicy.runOn j = (.ok d, i)) : i.ledger = j.ledger.decide d := by
  unfold passByPolicy at h
  rw [runOn_bind_of_ok (runOn_get j)] at h
  obtain ⟨_, j₁, hqueue, h⟩ := runOn_bind_eq_ok.1 h
  have hj₁ : j₁.ledger = j.ledger := by
    cases hqueue
    rfl
  rw [← hj₁]
  dsimp only at h
  split at h
  · exact keepRunning_ledger h
  · unfold followChoice at h
    split at h
    · split at h
      · exact keepRunning_ledger h
      · exact handOver_ledger h
    · exact keepRunning_ledger h

/-- **What a scheduling pass writes**: the pass, and the switch if it decided on one. -/
theorem scheduleNext_ledger {d : Decision} (h : scheduleNext.runOn j = (.ok d, i)) :
    i.ledger = j.ledger.pass.decide d := by
  unfold scheduleNext at h
  obtain ⟨_, j₁, hpass, h⟩ := runOn_bind_eq_ok.1 h
  rw [runOn_bind_of_ok (runOn_get j₁)] at h
  have hj₁ : j₁.ledger = j.ledger.pass := by
    cases hpass
    rfl
  rw [← hj₁]
  unfold serveDue at h
  split at h
  · exact preempt_ledger h
  · exact passByPolicy_ledger h

/-! ## What is written in a crossing -/

/-- A vehicle that crosses, and when its slice began. -/
structure Departure where
  vehicle : Vehicle
  startMs : Nat

/-- How long the vehicle has waited; a clock that went back counts as no time. -/
def Departure.waitMs (d : Departure) : Nat := d.startMs - d.vehicle.arrivedMs

/-- The vehicles that a slice clears. -/
def Traffic.departures (t : Traffic) (r : SliceRecord) : List Departure :=
  ((t.lanes.get r.lane).queue.vehicles.take r.vehicles).map (fun v => ⟨v, r.startMs⟩)

def Traffic.waitMs (t : Traffic) (r : SliceRecord) : Nat := ((t.departures r).map (·.waitMs)).sum

namespace Ledger

/-- What a lane that was let cross writes, with its slice and whether it was denied its quadrants. -/
def serve (k : Ledger) (t : Traffic) (served : Option SliceRecord × Bool) : Ledger :=
  let k := served.1.elim k (fun r => k.slice r (t.waitMs r))
  if served.2 then k.deny else k

def after (k : Ledger) (t : Traffic) : StepOutcome → Ledger
  | .paused => k
  | .ran d record denied rs => ((k.step.pass.decide d).serve t (record, denied)).resolve rs.length

@[simp] theorem resolve_resolve (k : Ledger) (m n : Nat) : (k.resolve m).resolve n = k.resolve (m + n) := by
  simp [resolve, Nat.add_assoc]

@[simp] theorem config_decide (k : Ledger) (d : Decision) : (k.decide d).config = k.config := by
  unfold decide
  split <;> rfl

end Ledger

/-- **A denial is written when a lane is not admitted**: as long as it asks for no more than there is, it has its
quadrants or is denied them. -/
theorem admitLane_ledger {admitted : Bool} (hn : j.config.quadrantsPerCrossing ≤ j.allocator.total)
    (h : (admitLane l).runOn j = (.ok admitted, i)) :
    i.ledger = if admitted then j.ledger else j.ledger.deny := by
  cases admitLane_asksTo hn h with
  | held => rfl
  | granted a n => exact Junction.ledger_set_lane_of_eq (j := { j with allocator := a }) rfl
  | denied a n => exact Junction.ledger_set_lane_of_eq (j := { j with metrics := _, allocator := a }) rfl

theorem Approach.account_closed (a : Approach) : a.closed.account = a.account := by
  unfold closed
  split <;> rfl

theorem waitMs_sliceRecord (j : Junction) (l : Lane) :
    j.traffic.waitMs (j.sliceRecord l) = (j.lanes.get l).waitOf j.clock (j.batch l) := by
  have hlane : j.traffic.lanes.get (j.sliceRecord l).lane = (j.lanes.get l).traffic := j.traffic_lanes_get l
  rw [Traffic.waitMs, Traffic.departures, hlane, List.map_map]
  rfl

theorem ledger_sliced (j : Junction) (l : Lane) :
    (j.sliced l).ledger = j.ledger.slice (j.sliceRecord l) (j.traffic.waitMs (j.sliceRecord l)) := by
  have hlane : (((j.lanes.get l).opened j.clock (j.batch l)).closed).account =
      ⟨(j.lanes.get l).account.served + j.batch l,
        (j.lanes.get l).account.waitMs + (j.lanes.get l).waitOf j.clock (j.batch l)⟩ := Approach.account_closed _
  rw [waitMs_sliceRecord, Junction.sliced, Junction.ledger, Ledger.slice]
  dsimp only
  rw [PerLane.map_set, hlane, PerLane.modify, ← Junction.ledger_lanes_get]
  rfl

/-- **What a slice writes.** -/
theorem executeSlice_ledger {record : Option SliceRecord} (hc : j.traffic.Cached)
    (h : (executeSlice l).runOn j = (.ok record, i)) : i.ledger = j.ledger.serve j.traffic (record, false) := by
  by_cases hr : j.Runs l
  · rw [runOn_executeSlice hr (j.cached_lane hc l)] at h
    cases h
    exact ledger_sliced j l
  · rw [runOn_executeSlice_of_not_runs hr] at h
    cases h
    rfl

theorem serveLane_ledger {served : Option SliceRecord × Bool} (hc : j.traffic.Cached)
    (hn : j.config.quadrantsPerCrossing ≤ j.allocator.total) (h : (serveLane l).runOn j = (.ok served, i)) :
    i.ledger = j.ledger.serve j.traffic served := by
  cases serveLane_servesTo h with
  | denied hletIn => exact admitLane_ledger hn hletIn
  | @crossed record j₁ j₂ j₃ _ hletIn hslice hcomplete hrelease =>
    have ht := (admits_quiet.admitLane l).traffic_eq hletIn
    rw [(retries_leaves.releaseLane l).ledger_eq hrelease, (completeServed_leaves l record).ledger_eq hcomplete,
      executeSlice_ledger (ht ▸ hc) hslice, admitLane_ledger hn hletIn, ht]
    rfl

theorem serveDecided_ledger {target : Option Lane} {served : Option SliceRecord × Bool} (hc : j.traffic.Cached)
    (hn : j.config.quadrantsPerCrossing ≤ j.allocator.total) (h : (serveDecided target).runOn j = (.ok served, i)) :
    i.ledger = j.ledger.serve j.traffic served := by
  cases target with
  | none =>
    cases h
    rfl
  | some l => exact serveLane_ledger hc hn h

/-! ## What is written in a sweep -/

theorem giveWay_ledger {released : Nat} (h : (giveWay l).runOn j = (.ok released, i)) :
    i.ledger = j.ledger.resolve 1 := by
  unfold giveWay at h
  obtain ⟨_, j₁, hrelease, h⟩ := runOn_bind_eq_ok.1 h
  obtain ⟨_, j₂, hstand, h⟩ := runOn_bind_eq_ok.1 h
  obtain ⟨_, j₃, hcount, h⟩ := runOn_bind_eq_ok.1 h
  cases h
  have hj₂ := (standDown_leaves l).ledger_eq hstand
  cases hrelease
  cases hcount
  rw [← show Junction.ledger { j with allocator := (j.allocator.release l).2 } = j.ledger from rfl, ← hj₂]
  rfl

/-- **Every resolution of a sweep is written.** -/
theorem breakCycles_ledger : ∀ (rounds : Nat) {j : Junction} {rs : List Resolution},
    (breakCycles rounds).runOn j = (.ok rs, i) → i.ledger = j.ledger.resolve rs.length
  | 0, _, _, h => by
    cases h
    rfl
  | rounds + 1, j, rs, h => by
    unfold breakCycles at h
    rw [runOn_bind_of_ok (runOn_get j)] at h
    unfold breakFound at h
    split at h
    · cases h
      rfl
    · split at h
      · obtain ⟨_, j₁, -, h⟩ := runOn_bind_eq_ok.1 h
        cases h
      · obtain ⟨released, j₁, hgive, h⟩ := runOn_bind_eq_ok.1 h
        obtain ⟨others, j₂, hrest, h⟩ := runOn_bind_eq_ok.1 h
        cases h
        rw [breakCycles_ledger rounds hrest, giveWay_ledger hgive, Ledger.resolve_resolve, List.length_cons,
          Nat.add_comm]

theorem sweepEvery_ledger {tick : Nat} {rs : List Resolution} (h : (sweepEvery tick).runOn j = (.ok rs, i)) :
    i.ledger = j.ledger.resolve rs.length := by
  cases sweepEvery_sweepsTo h with
  | swept hsweep hretry =>
    rw [(Leaves.composes.discard retries_leaves.revalidateBlocked).ledger_eq hretry]
    exact breakCycles_ledger 4 hsweep
  | notDue => rfl

/-! ## What is written in a step -/

theorem nextTick_ledger {n : Nat} (h : nextTick.runOn j = (.ok n, i)) : i.ledger = j.ledger.step := by
  cases h
  rfl

theorem Junction.PreparesTo.ledger_eq {tick : Nat} {decision : Decision} (h : j.PreparesTo tick decision i) :
    i.ledger = j.ledger.step.pass.decide decision := by
  obtain ⟨htick, hback, hpass, hpay⟩ := h
  rw [(Leaves.composes.payOverhead .sleep decision).ledger_eq hpay, scheduleNext_ledger hpass,
    retries_leaves.readmitEmergencies.ledger_eq hback, nextTick_ledger htick]

/-- **What a step writes.** -/
theorem step_ledger {outcome : StepOutcome} (hc : j.traffic.Cached)
    (hn : j.config.quadrantsPerCrossing ≤ j.allocator.total) (h : step.runOn j = (.ok outcome, i)) :
    i.ledger = j.ledger.after j.traffic outcome := by
  cases step_stepsTo h with
  | paused => rfl
  | @ran tick decision served resolutions j₁ j₂ _ hprepare hserve hsweep =>
    have hledger := hprepare.ledger_eq
    have hconfig : j₁.config = j.config := by
      have hk := congrArg Ledger.config hledger
      rwa [Ledger.config_decide] at hk
    have hserved := serveDecided_ledger (hprepare.traffic_eq ▸ hc) (by rw [hconfig, hprepare.total_eq]; exact hn) hserve
    rw [sweepEvery_ledger hsweep, hserved, hledger, hprepare.traffic_eq]
    rfl

end Crossroads
