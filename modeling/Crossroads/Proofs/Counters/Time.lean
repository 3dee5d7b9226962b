import Crossroads.Proofs.Steps.Clock
/-!
# Time accounts

The time counted as busy is the time of the slices, and what is charged for switches is slept, unless a stop was
requested.  Slices and sleeps follow one another on the clock, so together they do not exceed the time that has passed
since the counting began (`Junction.time_accounted`): the share of busy time that a report holds down to one is one at
most by itself.
-/
namespace Crossroads

open Act

variable {j j₀ i : Junction} {op : Operation} {ops : List Operation} {b : Blueprint} {now : Nat}

theorem Ledger.overheadMs_after (k : Ledger) (t : Traffic) (outcome : StepOutcome) :
    (k.post (.stepped t outcome)).metrics.overheadMs =
      k.metrics.overheadMs + if outcome.isSwitch then k.settings.contextSwitchMs else 0 := by
  cases outcome with
  | paused => rfl
  | ran decision record denied resolutions =>
    cases decision <;> cases record <;> cases denied <;> rfl

namespace Junction

/-- What was counted as busy and what was charged for switches has passed on the clock; after a request to stop the
charges need not have. -/
structure OnTime (j : Junction) : Prop where
  busy : j.metrics.startedMs + j.metrics.busyMs ≤ j.clock
  charged : j.stopped = false → j.metrics.startedMs + j.metrics.busyMs + j.metrics.switchOverheadMs ≤ j.clock

theorem OnTime.built (hb : b.build now = .ok j) : j.OnTime := by
  have hclock : j.clock = now := by
    rw [Blueprint.eq_assemble hb]
    rfl
  constructor
  · rw [metrics_built hb, hclock]
    exact Nat.le_refl _
  · intro _
    rw [metrics_built hb, hclock]
    exact Nat.le_refl _

/-- Time alone upsets no account. -/
theorem OnTime.elapses (h : j.OnTime) (he : j.Elapses i) (hbusy : i.metrics.busyMs = j.metrics.busyMs)
    (hcharged : i.metrics.switchOverheadMs = j.metrics.switchOverheadMs) : i.OnTime := by
  have hclock := he.clock
  constructor
  · have hj := h.busy
    rw [he.startedMs, hbusy]
    omega
  · intro hs
    have hj := h.charged (he.stopped hs)
    rw [he.startedMs, hbusy, hcharged]
    omega

/-- **A step charges no more than it takes**: it sleeps for the switch and for the batch what it counts. -/
theorem OnTime.crosses {outcome : StepOutcome} (h : j.OnTime)
    (hcross : Crosses { j with clock := j.clock + j.paidMs outcome } outcome.record i)
    (hbusy : i.metrics.busyMs = j.metrics.busyMs + (outcome.record.toList.map (·.durationMs)).sum)
    (hcharged : i.metrics.switchOverheadMs =
      j.metrics.switchOverheadMs + if outcome.isSwitch then j.settings.contextSwitchMs else 0) : i.OnTime := by
  have hstarted : i.metrics.startedMs = j.metrics.startedMs := hcross.startedMs
  have hstopped : i.stopped = j.stopped := hcross.stopped
  have hspent : j.clock + j.paidMs outcome + (outcome.record.toList.map (·.durationMs)).sum = i.clock := by
    cases hrecord : outcome.record with
    | none => exact (hcross.idle hrecord).symm
    | some r =>
      obtain ⟨hstart, hle, hend⟩ := hcross.recorded r hrecord
      have hstart : r.startMs = j.clock + j.paidMs outcome := hstart
      simp only [Option.toList_some, List.map_singleton, List.sum_singleton, SliceRecord.durationMs]
      omega
  constructor
  · have hj := h.busy
    rw [hstarted, hbusy]
    omega
  · intro hs
    have hgoing : j.stopped = false := hstopped ▸ hs
    have hj := h.charged hgoing
    have hpaid : j.paidMs outcome = if outcome.isSwitch then j.settings.contextSwitchMs else 0 := by
      rw [paidMs]
      simp only [hgoing, and_true]
    rw [hstarted, hbusy, hcharged]
    omega

/-! ## Operations -/

/-- What an operation does to the time of a junction: none is lost, and a slice that it reports lies within it. -/
structure Accounts (j : Junction) (record : Option SliceRecord) (i : Junction) : Prop where
  onTime : j.OnTime → i.OnTime
  clock : j.clock ≤ i.clock
  recorded : ∀ r, record = some r → j.clock ≤ r.startMs ∧ r.startMs ≤ r.endMs ∧ r.endMs ≤ i.clock

theorem accounts_step (h : j.Provided) : j.Accounts (Operation.step.record j) (Operation.step.next j) := by
  obtain ⟨outcome, i, hstep, hrun⟩ :=
    Operation.runOn_of_orderly .step step_orderly rfl nofun h.exclusive h.linked
  have hnext : Operation.step.next j = i := congrArg Prod.snd hrun
  have hrecord : Operation.step.record j = outcome.record := by
    rw [Operation.record, Operation.event, hrun]
    cases outcome <;> rfl
  have hledger : i.ledger = j.ledger.post (.stepped j.traffic outcome) := step_ledger h.balanced.cached h.enough hstep
  have hcross := step_crosses h.balanced.cached hstep
  have hpaid : j.clock + j.paidMs outcome ≤ i.clock := hcross.le
  rw [hnext, hrecord]
  refine ⟨fun hj => hj.crosses hcross ?_ ?_, by omega, fun r hr => ?_⟩
  · have hbusy := (j.ledger.adds_post (.stepped j.traffic outcome)).busyMs
    rwa [← hledger] at hbusy
  · have hcharged := j.ledger.overheadMs_after j.traffic outcome
    rwa [← hledger] at hcharged
  · obtain ⟨hstart, hle, hend⟩ := hcross.recorded r hr
    have hstart : r.startMs = j.clock + j.paidMs outcome := hstart
    exact ⟨by omega, hle, Nat.le_of_eq hend⟩

theorem entry_ne_stepped (hstep : op ≠ .step) (t : Traffic) (outcome : StepOutcome) :
    op.entry j ≠ .stepped t outcome := by
  intro hentry
  cases op with
  | step => exact hstep rfl
  | sweep =>
    dsimp only [Operation.entry] at hentry
    split at hentry <;> cases hentry
  | _ => cases hentry

theorem accounts_beside (h : j.Provided) (hop : op.Forward j) (hstep : op ≠ .step) :
    j.Accounts (op.record j) (op.next j) := by
  have helapses := hop.elapses hstep
  have hledger := Operation.ledger_next h hop.1
  rcases op.entry_cases j with ⟨outcome, hentry, -⟩ | ⟨hrecord, hentry⟩
  · exact absurd hentry (entry_ne_stepped hstep _ _)
  · have hmetrics : (op.next j).metrics.busyMs = j.metrics.busyMs ∧
        (op.next j).metrics.switchOverheadMs = j.metrics.switchOverheadMs := by
      rcases hentry with hentry | ⟨resolutions, hentry⟩ <;> rw [hentry] at hledger
      · exact ⟨congrArg (fun k => k.metrics.busyMs) hledger, congrArg (fun k => k.metrics.overheadMs) hledger⟩
      · exact ⟨congrArg (fun k => k.metrics.busyMs) hledger, congrArg (fun k => k.metrics.overheadMs) hledger⟩
    refine ⟨fun hj => hj.elapses helapses hmetrics.1 hmetrics.2, helapses.clock, fun r hr => ?_⟩
    rw [Operation.record, hrecord] at hr
    cases hr

/-- **Every operation keeps the time accounts.** -/
theorem accounts_next (h : j.Provided) (hop : op.Forward j) : j.Accounts (op.record j) (op.next j) := by
  by_cases hstep : op = .step
  · subst hstep
    exact accounts_step h
  · exact accounts_beside h hop hstep

/-! ## Runs -/

/-- **The records of a run follow one another on the clock.** -/
theorem records_in_order : ∀ {ops : List Operation} {j : Junction}, j.Provided → j.Along Operation.Forward ops →
    (∀ r ∈ j.records ops, j.clock ≤ r.startMs ∧ r.startMs ≤ r.endMs) ∧
      (j.records ops).Pairwise fun r s => r.endMs ≤ s.startMs
  | [], _, _, _ => ⟨nofun, .nil⟩
  | op :: ops, j, h, ⟨hop, hops⟩ => by
    have hnext := accounts_next h hop
    obtain ⟨hrest, hpairs⟩ := records_in_order (h.next hop.1) hops
    have hlater : ∀ r ∈ (op.next j).records ops, j.clock ≤ r.startMs ∧ r.startMs ≤ r.endMs := by
      intro r hr
      obtain ⟨hstart, hle⟩ := hrest r hr
      exact ⟨Nat.le_trans hnext.clock hstart, hle⟩
    have hrecords : j.records (op :: ops) = (op.record j).toList ++ (op.next j).records ops := by
      rw [records_eq, records_eq, entries, List.flatMap_cons, op.record_entry]
    rw [hrecords]
    cases hrecord : op.record j with
    | none => exact ⟨hlater, hpairs⟩
    | some r =>
      obtain ⟨hstart, hle, hend⟩ := hnext.recorded r hrecord
      refine ⟨List.forall_mem_cons.2 ⟨⟨hstart, hle⟩, hlater⟩, List.pairwise_cons.2 ⟨fun s hs => ?_, hpairs⟩⟩
      exact Nat.le_trans hend (hrest s hs).1

theorem OnTime.after : ∀ {ops : List Operation} {j : Junction}, j.OnTime → j.Provided → j.Along Operation.Forward ops →
    (j.after ops).OnTime
  | [], _, ht, _, _ => ht
  | _ :: _, _, ht, h, ⟨hop, hops⟩ => ((accounts_next h hop).onTime ht).after (h.next hop.1) hops

/-- **Time is accounted for** in every run of a junction that is built afresh, as long as nobody sets the clock back.
The slices follow one another, the busy time has passed since the counting began, and so has the time charged for
switches on top of it, unless a stop was requested. -/
theorem time_accounted (hb : b.build now = .ok j₀) (hforward : j₀.Along Operation.Forward ops) :
    (∀ r ∈ j₀.records ops, r.startMs ≤ r.endMs) ∧
    ((j₀.records ops).Pairwise fun r s => r.endMs ≤ s.startMs) ∧
    (j₀.after ops).metrics.busyMs ≤ (j₀.after ops).metrics.elapsedMs (j₀.after ops).clock ∧
    ((j₀.after ops).stopped = false → (j₀.after ops).metrics.busyMs + (j₀.after ops).metrics.switchOverheadMs ≤
      (j₀.after ops).metrics.elapsedMs (j₀.after ops).clock) := by
  obtain ⟨hrecords, hpairs⟩ := records_in_order (.built hb) hforward
  have htime := (OnTime.built hb).after (.built hb) hforward
  refine ⟨fun r hr => (hrecords r hr).2, hpairs, ?_, fun hs => ?_⟩
  · have hbusy := htime.busy
    rw [Metrics.elapsedMs, elapsedMs]
    omega
  · have hcharged := htime.charged hs
    rw [Metrics.elapsedMs, elapsedMs]
    omega

/-- The clock is set ahead between two steps with a switch each. -/
theorem time_accounted_ahead :
    let j₀ : Junction := Blueprint.assemble { config := {} } {} 0
    let ops : List Operation := [.arrive .north none, .step, .setClock 5000, .arrive .south none, .step]
    j₀.Along Operation.Forward ops ∧
      (j₀.records ops).map (fun r => (r.startMs, r.endMs)) = [(500, 3500), (5500, 8500)] ∧
      ((j₀.records ops).Pairwise fun r s => r.endMs ≤ s.startMs) ∧ (j₀.after ops).stopped = false ∧
      (j₀.after ops).metrics.busyMs + (j₀.after ops).metrics.switchOverheadMs ≤
        (j₀.after ops).metrics.elapsedMs (j₀.after ops).clock := by
  intro j₀ ops
  have hbuilt : Blueprint.build { config := {} } 0 = .ok j₀ := rfl
  have hforward : j₀.Along Operation.Forward ops := by
    refine ⟨⟨trivial, nofun⟩, ⟨trivial, nofun⟩, ⟨trivial, ?_⟩, ⟨trivial, nofun⟩, ⟨trivial, nofun⟩, trivial⟩
    rintro ms ⟨⟩
    decide +kernel
  have hgoing : (j₀.after ops).stopped = false := by decide +kernel
  obtain ⟨-, hpairs, -, hcharged⟩ := time_accounted hbuilt hforward
  exact ⟨hforward, by decide +kernel, hpairs, hgoing, hcharged hgoing⟩

/-- After a request to stop switches are charged but no longer slept for. -/
example :
    let j : Junction := (Blueprint.assemble { config := {} } {} 0).after
      [.arrive .north none, .step, .requestStop, .arrive .south none, .step, .arrive .east none, .step]
    j.metrics.elapsedMs j.clock = 3500 ∧ j.metrics.busyMs = 3000 ∧ j.metrics.switchOverheadMs = 1500 := by
  decide +kernel

end Junction
end Crossroads
