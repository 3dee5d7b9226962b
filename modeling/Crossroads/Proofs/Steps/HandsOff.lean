import Crossroads.Proofs.Config.Normal
import Crossroads.Proofs.Steps.Undisturbed
import Crossroads.Proofs.Traffic.Emergencies
/-!
# Nobody is denied without outside holders

What a simulation does with a junction while nobody else asks for quadrants (`Operation.HandsOff`) leaves it
undisturbed: no lane is ever denied, blocked or made to give way (`Junction.unhindered_reachable`).
-/
namespace Crossroads

open Act Junction

variable {j : Junction} {l : Lane} {a b : Approach} {op : Operation} {ops : List Operation} {now : Nat}

/-! ## Lanes -/

namespace Approach

theorem Settled.tick (h : a.Settled) (l : Lane) : a.tick l = .ok a.aged := by
  have hwaiting : ¬ (a.state = .waiting ∧ 0 < a.queueLength) := fun hw => by
    have h0 := h.waits.1 hw.1
    omega
  have hready : ¬ (a.state = .ready ∧ a.queueLength = 0) := fun hr => by
    have hwaits := h.waits.2 hr.2
    rw [hr.1] at hwaits
    cases hwaits
  rw [tick_eq, turned, if_neg hwaiting, if_neg hready]

theorem Settled.aged (h : a.Settled) : a.aged.Settled := by
  unfold Approach.aged
  split
  · exact ⟨h.unblocked, h.waits⟩
  · exact h

theorem Settled.letIn (h : a.Settled) (v : Vehicle) : (a.letIn v).Settled := by
  constructor
  · show (if a.state = .waiting then LaneState.ready else a.state) ≠ .blocked
    split
    · exact nofun
    · exact h.unblocked
  · show (if a.state = .waiting then LaneState.ready else a.state) = .waiting ↔ a.queue.length + 1 = 0
    constructor
    · split
      · exact nofun
      · rename_i hne
        exact fun hw => absurd hw hne
    · exact fun h0 => absurd h0 (Nat.succ_ne_zero _)

end Approach

/-! ## Emergencies -/

namespace Emergencies

variable {em : Emergencies}

theorem Placed.trigger (h : em.Placed) (l : Lane) (kind : EmergencyKind) (tick : Nat) :
    (em.trigger l kind tick).2.Placed :=
  forall_trigger h rfl fun _ hev => hev

theorem Placed.resolve (h : em.Placed) (l : Lane) : (em.resolve l).2.Placed := forall_resolve h l

end Emergencies

/-! ## Operations -/

theorem runOn_demoteAll : ∀ (ls : List Lane) (j : Junction), (ls.forM demote).runOn j =
    (.ok (), { j with lanes := .ofFn fun l => if l ∈ ls then (j.lanes.get l).stepAside else j.lanes.get l })
  | [], j => by
    have hlanes : PerLane.ofFn (fun l => if l ∈ [] then (j.lanes.get l).stepAside else j.lanes.get l) = j.lanes :=
      PerLane.ext_get fun l => by rw [PerLane.get_ofFn, if_neg List.not_mem_nil]
    rw [hlanes]
    rfl
  | l :: ls, j => by
    refine (runOn_bind_of_ok (runOn_demote_eq l j)).trans ((runOn_demoteAll ls _).trans ?_)
    have hlanes : PerLane.ofFn (fun m => if m ∈ ls then ((j.lanes.set l (j.lanes.get l).stepAside).get m).stepAside
        else (j.lanes.set l (j.lanes.get l).stepAside).get m) =
          .ofFn fun m => if m ∈ l :: ls then (j.lanes.get m).stepAside else j.lanes.get m := by
      refine PerLane.ext_get fun m => ?_
      rw [PerLane.get_ofFn, PerLane.get_ofFn]
      by_cases hm : m = l
      · subst hm
        rw [PerLane.get_set_self, Approach.stepAside_of_ne (Approach.stepAside_state_ne _), ite_self,
          if_pos List.mem_cons_self]
      · simp only [PerLane.get_set_of_ne _ _ hm, List.mem_cons, hm, false_or]
    dsimp only
    rw [hlanes]

/-- **What a swap of the policy comes to.** -/
theorem runOn_swapPolicy (p : Policy) (j : Junction) : (swapPolicy p).runOn j = (.ok (), { j with
    scheduler := { j.scheduler with policy := p, current := none, sliceCount := 0, readyQueue := [] }
    lanes := j.lanes.map Approach.stepAside }) := by
  unfold swapPolicy
  refine (runOn_bind_of_ok (runOn_modify _ j)).trans ((runOn_demoteAll _ _).trans ?_)
  have hlanes : PerLane.ofFn (fun l => if l ∈ Lane.all then (j.lanes.get l).stepAside else j.lanes.get l) =
      j.lanes.map Approach.stepAside := PerLane.ext_get fun l => by
    rw [PerLane.get_ofFn, if_pos (Lane.mem_all l), PerLane.get_map]
  dsimp only
  rw [hlanes]

namespace Operation

theorem runOn_sweep (j : Junction) : Operation.sweep.runOn j =
    ((sweepDeadlocks.runOn j).1.map .resolutions, (sweepDeadlocks.runOn j).2) := runOn_then_pure _ _ j

theorem runOn_revalidate (j : Junction) : Operation.revalidate.runOn j =
    ((revalidateBlocked.runOn j).1.map .lanes, (revalidateBlocked.runOn j).2) := runOn_then_pure _ _ j

theorem next_setPolicy (p : Policy) (j : Junction) : (setPolicy p).next j = { j with
    scheduler := { j.scheduler with policy := p, current := none, sliceCount := 0, readyQueue := [] }
    lanes := j.lanes.map Approach.stepAside } := by
  have hrun : (setPolicy p).next j = ((swapPolicy p).runOn j).2 := congrArg Prod.snd (runOn_then_pure _ _ j)
  rw [hrun, runOn_swapPolicy]

theorem next_command_setPolicy (p : Policy) (j : Junction) :
    (command (.setPolicy p)).next j = (setPolicy p).next j := by
  have hrun : (command (.setPolicy p)).next j = (((Command.setPolicy p).apply).runOn j).2 :=
    congrArg Prod.snd (runOn_then_pure _ _ j)
  rw [hrun, Command.apply, runOn_bind_of_ok (runOn_get j), runOn_bind_of_ok (runOn_swapPolicy p j), next_setPolicy]
  rfl

theorem next_command_triggerEmergency (lane : Nat) (kind : EmergencyKind) (j : Junction) :
    (command (.triggerEmergency lane kind)).next j =
      (Lane.ofIndex? lane).elim j (fun l => (emergency l kind).next j) := by
  show (((do let l ← ofExcept (Lane.ofIndex lane); triggerEmergency l kind) >>= fun b =>
    pure (Reply.flag b) : Act Reply).runOn j).2 = _
  rw [Lane.ofIndex]
  cases Lane.ofIndex? lane with
  | none => rfl
  | some l => rfl

theorem next_tickLane (h : (j.lanes.get l).Settled) :
    (tickLane l).next j = { j with lanes := j.lanes.set l (j.lanes.get l).aged } := by
  have hrun : (tickLane l).next j = ((Crossroads.tickLane l).runOn j).2 := congrArg Prod.snd (runOn_then_pure _ _ j)
  have htick : (tryOnLane l (fun a => a.tick l)).runOn j =
      (.ok (), { j with lanes := j.lanes.set l (j.lanes.get l).aged }) := by
    rw [runOn_tryOnLane, h.tick l]
  rw [hrun, Crossroads.tickLane, runOn_bind_of_ok htick]
  rfl

theorem next_arrive_error {kind : Option EmergencyKind}
    (h : (j.lanes.get l).queue.capacity ≤ (j.lanes.get l).queue.length) : (arrive l kind).next j = { j with
      nextVehicle := j.nextVehicle + 1
      metrics := j.metrics.recordGenerated.recordOverflow } := by
  have hrun : (arrive l kind).next j = ((generateArrival l kind).runOn j).2 :=
    congrArg Prod.snd (runOn_then_pure _ _ j)
  rw [hrun, runOn_generateArrival, Approach.enqueue_of_full h]

theorem next_arrive_ok {kind : Option EmergencyKind}
    (h : (j.lanes.get l).queue.length < (j.lanes.get l).queue.capacity) : (arrive l kind).next j = { j with
      nextVehicle := j.nextVehicle + 1
      metrics := j.metrics.recordGenerated
      lanes := j.lanes.set l ((j.lanes.get l).letIn (j.incoming kind))
      emergencies := j.emergencies.triggerArrived l j.scheduler.tick kind } := by
  have hrun : (arrive l kind).next j = ((generateArrival l kind).runOn j).2 :=
    congrArg Prod.snd (runOn_then_pure _ _ j)
  rw [hrun, runOn_generateArrival, Approach.enqueue_of_room h]

theorem next_sleep (ms : Nat) (j : Junction) :
    (sleep ms).next j = if j.stopped then j else { j with clock := j.clock + ms } := rfl

end Operation

/-- What is done with a junction while nobody else asks for quadrants. -/
def Operation.HandsOff : Operation → Prop
  | .request _ _ | .retry _ | .release _ => False
  | op => op.Regular

theorem Operation.HandsOff.regular (h : op.HandsOff) : op.Regular := by
  cases op with
  | request | retry | release => exact h.elim
  | _ => exact h

/-! ## The invariant -/

namespace Junction

theorem Undisturbed.built {b : Blueprint} (h : b.build now = .ok j) : j.Undisturbed where
  toSteady := .built h
  free := by
    rw [Blueprint.eq_assemble h]
    rfl
  crossable := by
    rw [Blueprint.eq_assemble h]
    exact ⟨b.config.normal_normalized.quadrants_pos, b.config.normal_normalized.quadrants_le⟩
  batched := by
    rw [Blueprint.eq_assemble h]
    exact b.config.normal_normalized.batch_pos
  settled l := by
    rw [Blueprint.eq_assemble h, Blueprint.assemble, PerLane.get_ofFn]
    exact ⟨(by rintro ⟨⟩), fun _ => rfl, fun _ => rfl⟩
  placed l ev hev := by
    rw [Blueprint.eq_assemble h] at hev
    cases (PerLane.get_replicate none l).symm.trans hev
  prevented := by
    rw [Blueprint.eq_assemble h]
    rfl
  resolved := by
    rw [Blueprint.eq_assemble h]
    rfl

/-! ### Steps keep it -/

theorem passed_metrics (j : Junction) : j.passed.metrics.deadlocksPrevented = j.metrics.deadlocksPrevented ∧
    j.passed.metrics.deadlocksResolved = j.metrics.deadlocksResolved := by
  unfold passed
  dsimp only
  split <;> exact ⟨rfl, rfl⟩

theorem served_metrics (j : Junction) (l : Lane) :
    (j.served l).metrics.deadlocksPrevented = j.metrics.deadlocksPrevented ∧
      (j.served l).metrics.deadlocksResolved = j.metrics.deadlocksResolved := by
  unfold served completed
  dsimp only
  cases (j.sliced l).emergencies.slots.get l with
  | none => exact ⟨rfl, rfl⟩
  | some ev => exact ⟨rfl, rfl⟩

theorem Undisturbed.stepped (h : j.Undisturbed) (hs : j.stepped.Steady) : j.stepped.Undisturbed := by
  obtain ⟨hprevented, hresolved⟩ := j.passed_metrics
  cases hd : j.decision.lane with
  | none =>
    have hlanes := h.settled_stepped
    rw [stepped_of_idle hd] at hs hlanes ⊢
    exact ⟨hs, h.free, h.crossable, h.batched, hlanes, h.placed, hprevented.trans h.prevented,
      hresolved.trans h.resolved⟩
  | some l =>
    obtain ⟨hprevented', hresolved'⟩ := j.readied.served_metrics l
    have hlanes := h.settled_stepped
    rw [stepped_of_lane hd] at hs hlanes ⊢
    exact ⟨hs, h.free, h.crossable, h.batched, hlanes, h.placed.resolve l,
      hprevented'.trans (hprevented.trans h.prevented), hresolved'.trans (hresolved.trans h.resolved)⟩

theorem Undisturbed.next_step (h : j.Undisturbed) : (Operation.next j .step).Undisturbed := by
  have hs : (Operation.next j .step).Steady := h.toSteady.next trivial
  cases hp : j.paused with
  | true =>
    rw [next_step_of_paused hp]
    exact h
  | false =>
    rw [h.next_step_eq hp] at hs ⊢
    exact h.stepped hs

theorem Undisturbed.next_sweep_eq (h : j.Undisturbed) : Operation.next j .sweep = j := by
  rw [Operation.next, Operation.runOn_sweep, runOn_sweepDeadlocks_none fun l => (h.settled l).unblocked]

theorem Undisturbed.next_revalidate_eq (h : j.Undisturbed) : Operation.next j .revalidate = j := by
  rw [Operation.next, Operation.runOn_revalidate, runOn_revalidateBlocked_none fun l => (h.settled l).unblocked]

theorem Undisturbed.next_emergency (h : j.Undisturbed) (l : Lane) (kind : EmergencyKind) :
    (Operation.next j (.emergency l kind)).Undisturbed :=
  ⟨h.toSteady.next trivial, h.free, h.crossable, h.batched, h.settled, h.placed.trigger l kind _, h.prevented,
    h.resolved⟩

theorem Undisturbed.next_setPolicy (h : j.Undisturbed) (p : Policy) :
    (Operation.next j (.setPolicy p)).Undisturbed := by
  have hs : (Operation.next j (.setPolicy p)).Steady := h.toSteady.next trivial
  rw [Operation.next_setPolicy] at hs ⊢
  refine ⟨hs, h.free, h.crossable, h.batched, fun l => ?_, h.placed, h.prevented, h.resolved⟩
  rw [PerLane.get_map]
  exact (h.settled l).stepAside

theorem Undisturbed.next_tickLane (h : j.Undisturbed) (l : Lane) : (Operation.next j (.tickLane l)).Undisturbed := by
  have hs : (Operation.next j (.tickLane l)).Steady := h.toSteady.next trivial
  rw [Operation.next_tickLane (h.settled l)] at hs ⊢
  have hlanes := PerLane.forall_modify (f := Approach.aged) h.settled (h.settled l).aged
  exact ⟨hs, h.free, h.crossable, h.batched, hlanes, h.placed, h.prevented, h.resolved⟩

theorem Undisturbed.next_arrive (h : j.Undisturbed) (l : Lane) (kind : Option EmergencyKind) :
    (Operation.next j (.arrive l kind)).Undisturbed := by
  have hs : (Operation.next j (.arrive l kind)).Steady := h.toSteady.next trivial
  rcases Nat.lt_or_ge (j.lanes.get l).queue.length (j.lanes.get l).queue.capacity with hroom | hfull
  · rw [Operation.next_arrive_ok hroom] at hs ⊢
    have hlanes := PerLane.forall_modify (f := (·.letIn (j.incoming kind))) h.settled ((h.settled l).letIn _)
    have hplaced := Emergencies.triggerArrived_of h.placed (h.placed.trigger l · j.scheduler.tick) kind
    exact ⟨hs, h.free, h.crossable, h.batched, hlanes, hplaced, h.prevented, h.resolved⟩
  · rw [Operation.next_arrive_error hfull] at hs ⊢
    exact ⟨hs, h.free, h.crossable, h.batched, h.settled, h.placed, h.prevented, h.resolved⟩

theorem Undisturbed.next_command (h : j.Undisturbed) (c : Command) : (Operation.next j (.command c)).Undisturbed := by
  have hs : (Operation.next j (.command c)).Steady := h.toSteady.next trivial
  cases c with
  | pause | resume | shutdown =>
    exact ⟨hs, h.free, h.crossable, h.batched, h.settled, h.placed, h.prevented, h.resolved⟩
  | setPolicy p =>
    rw [Operation.next_command_setPolicy]
    exact h.next_setPolicy p
  | triggerEmergency lane kind =>
    rw [Operation.next_command_triggerEmergency]
    cases Lane.ofIndex? lane with
    | none => exact h
    | some l => exact h.next_emergency l kind

/-- **An undisturbed junction stays one.** -/
theorem Undisturbed.next (h : j.Undisturbed) (hop : op.HandsOff) : (op.next j).Undisturbed := by
  have hs := h.toSteady.next hop.regular
  cases op with
  | step => exact h.next_step
  | emergency l kind => exact h.next_emergency l kind
  | setPolicy p => exact h.next_setPolicy p
  | tickLane l => exact h.next_tickLane l
  | arrive l kind => exact h.next_arrive l kind
  | command c => exact h.next_command c
  | advance | setClock | requestStop | pause | resume =>
    exact ⟨hs, h.free, h.crossable, h.batched, h.settled, h.placed, h.prevented, h.resolved⟩
  | sleep ms =>
    rw [Operation.next_sleep] at hs ⊢
    by_cases hstop : j.stopped = true
    · rw [if_pos hstop]
      exact h
    · rw [if_neg hstop] at hs ⊢
      exact ⟨hs, h.free, h.crossable, h.batched, h.settled, h.placed, h.prevented, h.resolved⟩
  | sweep =>
    rw [h.next_sweep_eq]
    exact h
  | revalidate =>
    rw [h.next_revalidate_eq]
    exact h
  | _ => exact hop.elim

theorem Reachable.after {allowed : Operation → Prop} : ∀ (ops : List Operation) {j : Junction}, j.Reachable allowed →
    (∀ op ∈ ops, allowed op) → (j.after ops).Reachable allowed
  | [], _, h, _ => h
  | op :: ops, _, h, hops => by
    obtain ⟨hop, hrest⟩ := List.forall_mem_cons.1 hops
    exact Reachable.after ops (h.next hop) hrest

theorem Reachable.undisturbed (h : j.Reachable Operation.HandsOff) : j.Undisturbed := by
  induction h with
  | built hb => exact .built hb
  | next _ hop ih => exact ih.next hop

/-! ## Nobody is denied -/

/-- What is seen of a junction in which nobody is denied. -/
structure Unhindered (j : Junction) : Prop where
  holds : ∀ l, j.allocator.allocation.get l = 0
  asks : ∀ l, j.allocator.request.get l = 0
  available : j.allocator.available = totalQuadrants
  unblocked : ∀ l, (j.lanes.get l).state ≠ .blocked
  prevented : j.metrics.deadlocksPrevented = 0
  resolved : j.metrics.deadlocksResolved = 0
  /-- There is no deadlock to break and no lane to try again for. -/
  swept : (Operation.sweep.runOn j).1 = .ok (.resolutions [])
  revalidated : (Operation.revalidate.runOn j).1 = .ok (.lanes [])
  /-- A step is not made while the simulation is paused. -/
  held : j.paused = true → (Operation.step.runOn j).1 = .ok (.outcome .paused)
  /-- A step that is made denies nobody and breaks no deadlock, and the lane of its decision crosses. -/
  ran : j.paused = false → ∃ decision record, (Operation.step.runOn j).1 = .ok (.outcome (.ran decision record false []))
    ∧ ∀ l, decision.lane = some l → ∃ r, record = some r ∧ r.lane = l

/-- **Without outside holders nobody is denied or blocked, and there is no deadlock**, whatever else is done to a
junction that is built afresh. -/
theorem unhindered_reachable (h : j.Reachable Operation.HandsOff) : j.Unhindered := by
  have hj := h.undisturbed
  have hunblocked : ∀ l, (j.lanes.get l).state ≠ .blocked := fun l => (hj.settled l).unblocked
  refine ⟨fun l => ?_, fun l => ?_, ?_, hunblocked, hj.prevented, hj.resolved, ?_, ?_, step_answer_paused, fun hp => ?_⟩
  · rw [hj.free]
    exact PerLane.get_replicate 0 l
  · rw [hj.free]
    exact PerLane.get_replicate 0 l
  · rw [hj.free]
    rfl
  · rw [Operation.runOn_sweep, runOn_sweepDeadlocks_none hunblocked]
    rfl
  · rw [Operation.runOn_revalidate, runOn_revalidateBlocked_none hunblocked]
    rfl
  · refine ⟨j.decision, _, hj.step_answer hp, fun l hl => ?_⟩
    rw [hl]
    exact ⟨_, rfl, rfl⟩

/-- An ambulance crosses from the north ahead of a vehicle in the south, which takes its step after it. -/
theorem unhindered_reachable_ambulance :
    let ops : List Operation := [.arrive .south none, .arrive .north (some .ambulance), .step, .sweep]
    let j : Junction := (Blueprint.assemble { config := {} } {} 0).after ops
    j.Unhindered ∧ j.paused = false ∧ j.decision = .switch (some .north) .south false := by
  have hbuilt : (Blueprint.assemble { config := {} } {} 0).Reachable Operation.HandsOff :=
    .built (b := { config := {} }) rfl
  exact ⟨unhindered_reachable (hbuilt.after _ (by simp [Operation.HandsOff, Operation.Regular])), by decide +kernel,
    by decide +kernel⟩

end Junction
end Crossroads
