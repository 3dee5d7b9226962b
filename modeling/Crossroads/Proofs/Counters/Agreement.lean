import Crossroads.Proofs.Counters.Entries
import Crossroads.Proofs.Quadrants.Contract
import Crossroads.Proofs.Steps.HandsOff
/-!
# The counters agree

Only steps and sweeps make entries in the ledger (`Operation.ledger_next`), and an entry says what its answer says.  So
the counters of a run agree with each other and with the answers of the run (`Junction.counters_agree`).
-/
namespace Crossroads

open Act

variable {j j₀ : Junction} {op : Operation} {ops : List Operation} {l : Lane} {b : Blueprint} {now : Nat}

/-! ## Operations -/

namespace Operation

def entry (op : Operation) (j : Junction) : Entry :=
  match op with
  | step =>
    match (op.runOn j).1 with
    | .ok (.outcome outcome) => .stepped j.traffic outcome
    | _ => .nothing
  | sweep =>
    match (op.runOn j).1 with
    | .ok (.resolutions resolutions) => .swept resolutions
    | _ => .nothing
  | _ => .nothing

/-- An entry is a step's, or tells of no slice. -/
theorem entry_cases (op : Operation) (j : Junction) :
    (∃ outcome, op.entry j = .stepped j.traffic outcome ∧ op.event j = outcome.event) ∨
      (op.event j).record = none ∧ (op.entry j = .nothing ∨ ∃ resolutions, op.entry j = .swept resolutions) := by
  cases op with
  | step =>
    unfold entry event
    rcases (step.runOn j).1 with f | reply
    · exact .inr ⟨rfl, .inl rfl⟩
    · cases reply with
      | outcome outcome => exact .inl ⟨outcome, rfl, rfl⟩
      | _ => exact .inr ⟨rfl, .inl rfl⟩
  | sweep =>
    unfold entry
    rcases (sweep.runOn j).1 with f | reply
    · exact .inr ⟨rfl, .inl rfl⟩
    · cases reply with
      | resolutions resolutions => exact .inr ⟨rfl, .inr ⟨resolutions, rfl⟩⟩
      | _ => exact .inr ⟨rfl, .inl rfl⟩
  | arrive l kind =>
    refine .inr ⟨?_, .inl rfl⟩
    unfold event
    cases ((arrive l kind).runOn j).1 <;> rfl
  | command c =>
    refine .inr ⟨?_, .inl rfl⟩
    cases c with
    | triggerEmergency lane kind =>
      dsimp only [event]
      cases Lane.ofIndex? lane <;> rfl
    | _ => rfl
  | _ => exact .inr ⟨rfl, .inl rfl⟩

theorem record_entry (op : Operation) (j : Junction) : (op.entry j).record = op.record j := by
  rw [record]
  rcases op.entry_cases j with ⟨outcome, hentry, hevent⟩ | ⟨hrecord, hentry | ⟨resolutions, hentry⟩⟩
  · rw [hentry, hevent]
    cases outcome <;> rfl
  · rw [hentry, hrecord]
    rfl
  · rw [hentry, hrecord]
    rfl

theorem vehicles_departures (op : Operation) (j : Junction) (l : Lane) :
    ((op.entry j).departures l).map (·.vehicle) = j.traffic.cleared l (op.event j) := by
  have hnone : ∀ e : Traffic.Event, e.record = none → j.traffic.cleared l e = [] := by
    intro e he
    cases e with
    | stepped record =>
      cases he
      rfl
    | _ => rfl
  rcases op.entry_cases j with ⟨outcome, hentry, hevent⟩ | ⟨hrecord, hentry | ⟨resolutions, hentry⟩⟩
  · rw [hentry, hevent]
    cases outcome with
    | paused => rfl
    | ran decision record denied resolutions =>
      cases record with
      | none => rfl
      | some r =>
        simp only [Entry.departures, StepOutcome.record, StepOutcome.event, Option.elim_some, Traffic.cleared]
        by_cases hl : r.lane = l
        · subst hl
          simp [Traffic.departures, Function.comp_def]
        · simp [hl]
  · rw [hentry, hnone _ hrecord]
    rfl
  · rw [hentry, hnone _ hrecord]
    rfl

theorem command_leaves : ∀ c : Command, c.apply.Leaves
  | .pause | .resume | .shutdown => fun _ => rfl
  | .setPolicy p => .bind .get fun _ => .bind (swapPolicy_leaves p) fun _ => .pure _
  | .triggerEmergency lane _ => .bind (.ofExcept (Lane.ofIndex lane)) fun _ =>
    Moves.composes.triggerEmergency fun _ => .onEmergencies _

theorem generateArrival_leaves (l : Lane) (emergency : Option EmergencyKind) :
    (generateArrival l emergency).Leaves := by
  intro j
  rw [runOn_generateArrival]
  cases hq : (j.lanes.get l).enqueue (j.incoming emergency) with
  | error e => rfl
  | ok a =>
    obtain ⟨-, rfl⟩ := Approach.enqueue_eq_ok_iff.1 hq
    exact Junction.ledger_set_lane_of_eq (j := { j with nextVehicle := _, metrics := _, emergencies := _ }) rfl

theorem Regular.leaves (h : op.Regular) (hstep : op ≠ .step) (hsweep : op ≠ .sweep) : op.perform.Leaves := by
  cases op with
  | step => exact absurd rfl hstep
  | sweep => exact absurd rfl hsweep
  | advance | setClock | release | requestStop | pause | resume | emergency => exact fun _ => rfl
  | arrive l kind => exact .bind (generateArrival_leaves l kind) fun _ => .pure _
  | command c => exact .bind (command_leaves c) fun _ => .pure _
  | request | retry => exact .bind (.onAllocator _) fun _ => .bind (.ofExcept _) fun _ => .pure _
  | sleep ms => exact .bind (.sleep ms) fun _ => .pure _
  | tickLane l =>
    exact .bind (Moves.composes.tickLane (.tryOnLane l fun _ _ h => Approach.account_of_tick h)) fun _ => .pure _
  | setPolicy p => exact .bind (swapPolicy_leaves p) fun _ => .pure _
  | revalidate => exact .bind retries_leaves.revalidateBlocked fun _ => .pure _
  | _ => exact h.elim

end Operation

namespace Junction

/-- A junction in order in which no lane asks for more quadrants than there are. -/
structure Provided (j : Junction) : Prop extends Steady j where
  enough : j.config.quadrantsPerCrossing ≤ j.allocator.total

theorem Provided.built (h : b.build now = .ok j) : j.Provided where
  toSteady := .built h
  enough := by
    rw [Blueprint.eq_assemble h]
    exact b.config.normal_normalized.quadrants_le

end Junction

namespace Operation

theorem ledger_next_step (h : j.Provided) : (step.next j).ledger = j.ledger.post (step.entry j) := by
  obtain ⟨outcome, i, hstep, hrun⟩ := runOn_of_orderly .step step_orderly rfl nofun h.exclusive h.linked
  have hnext : step.next j = i := congrArg Prod.snd hrun
  have hentry : step.entry j = .stepped j.traffic outcome := by
    unfold entry
    rw [hrun]
  rw [hnext, hentry]
  exact step_ledger h.balanced.cached h.enough hstep

theorem ledger_next_sweep (h : j.Provided) : (sweep.next j).ledger = j.ledger.post (sweep.entry j) := by
  obtain ⟨resolutions, i, hsweep, hrun⟩ :=
    runOn_of_orderly .sweep (sweeps_quiet.breakCycles 4).toOrderly rfl nofun h.exclusive h.linked
  have hnext : sweep.next j = i := congrArg Prod.snd hrun
  have hentry : sweep.entry j = .swept resolutions := by
    unfold entry
    rw [hrun]
  rw [hnext, hentry]
  exact breakCycles_ledger 4 hsweep

/-- **What a regular operation does to the ledger** is what its entry does. -/
theorem ledger_next (h : j.Provided) (hreg : op.Regular) : (op.next j).ledger = j.ledger.post (op.entry j) := by
  by_cases hstep : op = .step
  · subst hstep
    exact ledger_next_step h
  by_cases hsweep : op = .sweep
  · subst hsweep
    exact ledger_next_sweep h
  have hentry : op.entry j = .nothing := by
    cases op <;> first | rfl | contradiction
  rw [hentry]
  exact hreg.leaves hstep hsweep j

theorem sound_entry (h : j.Steady) (hreg : op.Regular) : (op.entry j).Sound := by
  obtain ⟨hallows, -⟩ := h.traffic_next hreg
  rcases op.entry_cases j with ⟨outcome, hentry, hevent⟩ | ⟨-, hentry | ⟨resolutions, hentry⟩⟩
  · rw [hentry]
    rw [hevent] at hallows
    cases outcome with
    | paused => exact Traffic.batch_none _
    | ran decision record denied resolutions => exact hallows
  · rw [hentry]
    trivial
  · rw [hentry]
    trivial

end Operation

/-! ## Runs -/

namespace Junction

def entries : Junction → List Operation → List Entry
  | _, [] => []
  | j, op :: ops => op.entry j :: entries (op.next j) ops

/-- What the steps of a run came to, in order. -/
def outcomes (j : Junction) (ops : List Operation) : List StepOutcome := (j.entries ops).flatMap Entry.outcomes

/-- The deadlocks that the steps and the sweeps of a run broke, in order. -/
def resolutions (j : Junction) (ops : List Operation) : List Resolution := (j.entries ops).flatMap Entry.resolutions

/-- The vehicles that leave a lane in a run, in order. -/
def departures (j : Junction) (ops : List Operation) (l : Lane) : List Departure :=
  (j.entries ops).flatMap (Entry.departures l)

theorem Provided.next (h : j.Provided) (hreg : op.Regular) : (op.next j).Provided where
  toSteady := h.toSteady.next hreg
  enough := by
    have hconfig : (op.next j).config = j.config := by
      have hadds := (j.ledger.adds_post (op.entry j)).config
      rwa [← Operation.ledger_next h hreg] at hadds
    rw [hconfig, (op.becomes j).total_eq]
    exact h.enough

/-- **The ledger of a run** is that of its entries. -/
theorem Provided.ledger_after (h : j.Provided) (hreg : ∀ op ∈ ops, op.Regular) :
    (j.after ops).ledger = (j.entries ops).foldl Ledger.post j.ledger := by
  induction ops generalizing j with
  | nil => rfl
  | cons op ops ih =>
    obtain ⟨hop, hops⟩ := List.forall_mem_cons.1 hreg
    rw [entries, List.foldl_cons, ← Operation.ledger_next h hop, ← ih (h.next hop) hops]
    rfl

theorem Provided.sound_entries (h : j.Provided) (hreg : ∀ op ∈ ops, op.Regular) : ∀ e ∈ j.entries ops, e.Sound := by
  induction ops generalizing j with
  | nil => exact fun e he => absurd he List.not_mem_nil
  | cons op ops ih =>
    obtain ⟨hop, hops⟩ := List.forall_mem_cons.1 hreg
    rw [entries]
    exact List.forall_mem_cons.2 ⟨Operation.sound_entry h.toSteady hop, ih (h.next hop) hops⟩

theorem records_eq (ops : List Operation) (j : Junction) :
    j.records ops = (j.entries ops).flatMap (fun e => e.record.toList) := by
  induction ops generalizing j with
  | nil => rfl
  | cons op ops ih =>
    rw [entries, List.flatMap_cons, ← ih, op.record_entry, records, history, List.filterMap_cons, Operation.record]
    cases (op.event j).record <;> rfl

theorem departures_cleared (ops : List Operation) (j : Junction) (l : Lane) :
    (j.departures ops l).map (·.vehicle) = j.cleared ops l := by
  induction ops generalizing j with
  | nil => rfl
  | cons op ops ih =>
    have hrest := ih (op.next j)
    rw [departures, cleared] at hrest ⊢
    rw [entries, history, List.flatMap_cons, List.flatMap_cons, List.map_append, hrest, op.vehicles_departures]

theorem Provided.count_after {α : Type} {f : Ledger → Nat} {tells : Entry → List α} {m : List α → Nat}
    (h : j.Provided) (hreg : ∀ op ∈ ops, op.Regular) (hzero : f j.ledger = 0) (hnil : m [] = 0)
    (happend : ∀ xs ys, m (xs ++ ys) = m xs + m ys) (hpost : ∀ k e, f (k.post e) = f k + m (tells e)) :
    f (j.after ops).ledger = m ((j.entries ops).flatMap tells) := by
  rw [h.ledger_after hreg, Ledger.foldl_count hnil happend hpost, hzero, Nat.zero_add]

theorem Provided.outcomes_after {f : Ledger → Nat} {p : StepOutcome → Bool} (h : j.Provided)
    (hreg : ∀ op ∈ ops, op.Regular) (hzero : f j.ledger = 0)
    (hpost : ∀ k e, f (k.post e) = f k + e.outcomes.countP p) : f (j.after ops).ledger = (j.outcomes ops).countP p :=
  h.count_after hreg hzero List.countP_nil (fun _ _ => List.countP_append) hpost

theorem Provided.records_after {f : Ledger → Nat} {w : SliceRecord → Nat} (h : j.Provided)
    (hreg : ∀ op ∈ ops, op.Regular) (hzero : f j.ledger = 0)
    (hpost : ∀ k e, f (k.post e) = f k + (e.record.toList.map w).sum) :
    f (j.after ops).ledger = ((j.records ops).map w).sum := by
  rw [records_eq]
  refine h.count_after (m := fun rs => (rs.map w).sum) hreg hzero rfl (fun xs ys => ?_) hpost
  rw [List.map_append, List.sum_append]

theorem Provided.settings_after (h : j.Provided) (hreg : ∀ op ∈ ops, op.Regular) :
    (j.after ops).settings = j.settings :=
  (congrArg Ledger.settings (h.ledger_after hreg)).trans (Ledger.foldl_settings _ _)

theorem Provided.lane_after (h : j.Provided) (hreg : ∀ op ∈ ops, op.Regular) (l : Lane) :
    ((j.after ops).lanes.get l).account = ((j.lanes.get l).account).add (j.departures ops l) := by
  rw [← ledger_lanes_get, ← ledger_lanes_get, h.ledger_after hreg]
  exact Ledger.foldl_lanes l _ _ (h.sound_entries hreg)

theorem Provided.history_after (h : j.Provided) (hreg : ∀ op ∈ ops, op.Regular) :
    (j.after ops).scheduler.history = (j.records ops).foldl (fun r x => (r.push x).2) j.scheduler.history := by
  have hledger := congrArg (fun k => k.scheduler.history) (h.ledger_after hreg)
  rw [Ledger.foldl_history, ← records_eq] at hledger
  exact hledger

theorem account_built (hb : b.build now = .ok j) (l : Lane) : (j.lanes.get l).account = ⟨0, 0⟩ := by
  rw [Blueprint.eq_assemble hb, Blueprint.assemble, PerLane.get_ofFn]
  rfl

theorem metrics_built (hb : b.build now = .ok j) : j.metrics = { startedMs := now } := by
  rw [Blueprint.eq_assemble hb]
  rfl

theorem scheduler_built (hb : b.build now = .ok j) :
    j.scheduler = .fresh b.config.normalized.initialPolicy j.settings := by
  rw [Blueprint.eq_assemble hb]
  rfl

theorem tick_built (hb : b.build now = .ok j) : j.tick = 0 := by
  rw [Blueprint.eq_assemble hb]
  rfl

theorem agrees_built (hb : b.build now = .ok j) : j.ledger.Agrees := by
  have hlane : ∀ l, j.ledger.lanes.get l = ⟨0, 0⟩ := fun l => (j.ledger_lanes_get l).trans (account_built hb l)
  have hscheduler : j.ledger.scheduler = (Scheduler.fresh b.config.normalized.initialPolicy j.settings).account :=
    congrArg Scheduler.account (scheduler_built hb)
  have hmetrics : j.ledger.metrics = ({ startedMs := now } : Metrics).account :=
    congrArg Metrics.account (metrics_built hb)
  have hsteps : j.ledger.steps = 0 := tick_built hb
  refine ⟨?_, ?_, ?_, fun l => ?_, fun l => ?_, ?_⟩
  · rw [hscheduler, hsteps]
    rfl
  · rw [hscheduler, hmetrics]
    rfl
  · rw [hmetrics]
    exact (Nat.zero_mul _).symm
  · rw [hmetrics, hlane]
    exact PerLane.get_replicate 0 l
  · rw [hmetrics, hlane]
    exact PerLane.get_replicate 0 l
  · rw [hmetrics]
    rfl

/-- What the counters of a junction have to do with a run that it comes from. -/
structure CountersAgree (j₀ : Junction) (ops : List Operation) : Prop where
  throughput : ∀ l, (j₀.after ops).metrics.laneThroughput.get l = ((j₀.after ops).lanes.get l).totalServed
  laneWaits : ∀ l, (j₀.after ops).metrics.laneWaitMs.get l = ((j₀.after ops).lanes.get l).totalWaitMs
  /-- Each lane has served the vehicles that were cleared from it, and added up their waits. -/
  served : ∀ l, ((j₀.after ops).lanes.get l).totalServed = (j₀.departures ops l).length
  waited : ∀ l, ((j₀.after ops).lanes.get l).totalWaitMs = ((j₀.departures ops l).map (·.waitMs)).sum
  cleared : ∀ l, (j₀.departures ops l).map (·.vehicle) = j₀.cleared ops l
  processed : (j₀.after ops).metrics.totalProcessed = (j₀.after ops).metrics.laneThroughput.sum
  recorded : (j₀.after ops).metrics.totalProcessed = ((j₀.records ops).map (·.vehicles)).sum
  busy : (j₀.after ops).metrics.busyMs = ((j₀.records ops).map (·.durationMs)).sum
  switches : (j₀.after ops).scheduler.contextSwitches = (j₀.after ops).metrics.contextSwitches
  switched : (j₀.after ops).metrics.contextSwitches = (j₀.outcomes ops).countP (·.isSwitch)
  overhead : (j₀.after ops).metrics.switchOverheadMs =
    (j₀.after ops).metrics.contextSwitches * j₀.settings.contextSwitchMs
  passes : (j₀.after ops).scheduler.tick = (j₀.after ops).tick
  steps : (j₀.after ops).tick = (j₀.outcomes ops).countP (·.hasRun)
  prevented : (j₀.after ops).metrics.deadlocksPrevented = (j₀.outcomes ops).countP (·.denied)
  resolved : (j₀.after ops).metrics.deadlocksResolved = (j₀.resolutions ops).length
  /-- The scheduler remembers the newest records, as many as it has room for. -/
  remembered : (∃ older, j₀.records ops = older ++ (j₀.after ops).scheduler.history.entries) ∧
    (j₀.after ops).scheduler.history.entries.length = min j₀.settings.historyCapacity (j₀.records ops).length

/-- **The counters of the lanes, the scheduler and the metrics agree** in every run of a junction that is built afresh,
with each other and with what the steps and the sweeps of the run have answered. -/
theorem counters_agree (hb : b.build now = .ok j₀) (hreg : ∀ op ∈ ops, op.Regular) : j₀.CountersAgree ops := by
  have h₀ : j₀.Provided := .built hb
  have hagrees : (j₀.after ops).ledger.Agrees := by
    rw [h₀.ledger_after hreg]
    exact (agrees_built hb).foldl _
  have hlane : ∀ l, ((j₀.after ops).lanes.get l).account = LaneAccount.add ⟨0, 0⟩ (j₀.departures ops l) := by
    intro l
    rw [h₀.lane_after hreg, account_built hb]
  have hmetrics : j₀.ledger.metrics = ({ startedMs := now } : Metrics).account :=
    congrArg Metrics.account (metrics_built hb)
  have hhistory : j₀.scheduler.history = { capacity := j₀.settings.historyCapacity } :=
    congrArg Scheduler.history (scheduler_built hb)
  exact
    { throughput := fun l => (hagrees.served l).trans (congrArg LaneAccount.served (ledger_lanes_get _ l))
      laneWaits := fun l => (hagrees.waited l).trans (congrArg LaneAccount.waitMs (ledger_lanes_get _ l))
      served := fun l => (congrArg LaneAccount.served (hlane l)).trans (Nat.zero_add _)
      waited := fun l => (congrArg LaneAccount.waitMs (hlane l)).trans (Nat.zero_add _)
      cleared := departures_cleared ops j₀
      processed := hagrees.processed
      recorded := h₀.records_after (f := fun k => k.metrics.processed) hreg
        (congrArg MetricsAccount.processed hmetrics) fun k e => (k.adds_post e).processed
      busy := h₀.records_after (f := fun k => k.metrics.busyMs) hreg
        (congrArg MetricsAccount.busyMs hmetrics) fun k e => (k.adds_post e).busyMs
      switches := hagrees.switches
      switched := h₀.outcomes_after (f := fun k => k.metrics.switches) hreg
        (congrArg MetricsAccount.switches hmetrics) fun k e => (k.adds_post e).switches
      overhead := by
        rw [← h₀.settings_after hreg]
        exact hagrees.overhead
      passes := hagrees.passes
      steps := h₀.outcomes_after (f := fun k => k.steps) hreg (tick_built hb) fun k e => (k.adds_post e).steps
      prevented := h₀.outcomes_after (f := fun k => k.metrics.prevented) hreg
        (congrArg MetricsAccount.prevented hmetrics) fun k e => (k.adds_post e).prevented
      resolved := h₀.count_after (f := fun k => k.metrics.resolved) (m := List.length) hreg
        (congrArg MetricsAccount.resolved hmetrics) rfl (fun _ _ => List.length_append)
        fun k e => (k.adds_post e).resolved
      remembered := by
        have hring :=
          Ring.foldl_push (r := { capacity := j₀.settings.historyCapacity }) (j₀.records ops) (Nat.zero_le _)
        rw [h₀.history_after hreg, hhistory]
        simpa using hring }

theorem counters_agree_batch :
    let j₀ : Junction := Blueprint.assemble { config := {} } {} 0
    let ops : List Operation := [.step, .arrive .north none, .arrive .north none, .advance 500, .step, .sweep, .step]
    j₀.CountersAgree ops ∧ (j₀.departures ops .north).map (·.waitMs) = [1000, 1000] ∧
      (j₀.after ops).metrics.totalProcessed = 2 ∧ (j₀.after ops).scheduler.contextSwitches = 1 ∧
      (j₀.after ops).tick = 3 := by
  have hbuilt : Blueprint.build { config := {} } 0 = .ok (Blueprint.assemble { config := {} } {} 0) := rfl
  exact ⟨counters_agree hbuilt (by simp [Operation.Regular]), by decide +kernel, by decide +kernel, by decide +kernel,
    by decide +kernel⟩

end Junction
end Crossroads
