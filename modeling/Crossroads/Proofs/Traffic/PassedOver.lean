import Crossroads.Proofs.Traffic.Emergencies
/-!
# Emergency vehicles behind a full batch

An emergency belongs to a lane, and the slice that handles it clears a batch from the head of the lane's queue.  The
vehicle that raised it crosses with that batch unless as many vehicles stand ahead of it as a batch holds
(`Junction.pending_or_passedOver`); one that was passed over waits like any other.
-/
namespace Crossroads

variable {t : Traffic} {l : Lane} {v : Vehicle} {ev : EmergencyEvent} {r : SliceRecord} {b : Blueprint} {now : Nat}
  {j j₀ : Junction} {op : Operation} {ops : List Operation}

/-! ## Events -/

namespace Traffic

theorem queue_after_slice (t : Traffic) (r : SliceRecord) :
    ((t.after (.stepped (some r))).lanes.get r.lane).queue.vehicles =
      (t.lanes.get r.lane).queue.vehicles.drop r.vehicles := by
  have hqueue : (t.lanes.get r.lane).queue.vehicles ++ [] = t.cleared r.lane (.stepped (some r)) ++ _ :=
    t.queue_after (.stepped (some r)) r.lane
  rw [cleared, if_pos rfl, List.append_nil] at hqueue
  exact (List.append_cancel_left ((List.take_append_drop r.vehicles _).trans hqueue)).symm

theorem full_of_mem_drop (hb : t.Batch (some r)) (hv : v ∈ (t.lanes.get r.lane).queue.vehicles.drop r.vehicles) :
    r.vehicles = t.batchSize := by
  have hlt : r.vehicles < (t.lanes.get r.lane).queue.length := by
    have hpos := List.length_pos_of_mem hv
    rw [List.length_drop] at hpos
    exact Nat.lt_of_sub_pos hpos
  have hmin := hb r rfl
  omega

theorem mem_queue_after {e : Event} (hv : v ∈ ((t.after e).lanes.get l).queue.vehicles) :
    v ∈ (t.lanes.get l).queue.vehicles ∨ (l, v) ∈ e.accepted := by
  have hmem : v ∈ t.cleared l e ++ ((t.after e).lanes.get l).queue.vehicles := List.mem_append_right _ hv
  rw [← t.queue_after e l] at hmem
  exact (List.mem_append.1 hmem).imp_right mem_onLane.1

theorem pending_of_accepted {e : Event} (ha : t.Allows e) (hv : (l, v) ∈ e.accepted) (hem : v.emergency = true) :
    (t.after e).emergencies.isPending l = true := by
  cases e with
  | admitted m w emergency =>
    cases List.mem_singleton.1 hv
    cases emergency with
    | none =>
      rw [ha.2] at hem
      cases hem
    | some kind =>
      show (t.emergencies.trigger l kind t.passes).2.isPending l = true
      rw [Emergencies.isPending_trigger]
      simp
  | _ => cases hv

/-- **A pending emergency stays until a slice of its lane**, which clears the vehicle or passes it over. -/
theorem pending_or_behind {e : Event} (ha : t.Allows e) (hp : t.emergencies.isPending l = true)
    (hv : v ∈ ((t.after e).lanes.get l).queue.vehicles) : (t.after e).emergencies.isPending l = true ∨
      ∃ r, e.record = some r ∧ r.lane = l ∧ r.vehicles = t.batchSize ∧
        v ∈ (t.lanes.get l).queue.vehicles.drop t.batchSize := by
  obtain ⟨ev, hev⟩ := Option.isSome_iff_exists.1 hp
  by_cases hr : ∀ r, e.record = some r → r.lane ≠ l
  · obtain ⟨ev', hev', -⟩ := awaits_after (.of_get hev) hr
    exact .inl (Option.isSome_iff_exists.2 ⟨ev', hev'⟩)
  · obtain ⟨r, hrec, hlane⟩ : ∃ r, e.record = some r ∧ r.lane = l := by
      by_contra hno
      exact hr fun r hrec hl => hno ⟨r, hrec, hl⟩
    cases Event.eq_stepped_of_record hrec
    subst hlane
    rw [queue_after_slice] at hv
    have hfull := full_of_mem_drop ha hv
    exact .inr ⟨r, rfl, rfl, hfull, hfull ▸ hv⟩

end Traffic

/-! ## Runs -/

namespace Junction

/-- In some step of a run a full batch of a lane crossed, with a vehicle behind it. -/
def PassedOver (j₀ : Junction) (ops : List Operation) (l : Lane) (v : Vehicle) : Prop :=
  ∃ pre op post r, ops = pre ++ op :: post ∧ op.record (j₀.after pre) = some r ∧ r.lane = l ∧
    r.vehicles = (j₀.after pre).settings.batchSize ∧
    v ∈ ((j₀.after pre).lanes.get l).queue.vehicles.drop (j₀.after pre).settings.batchSize

theorem PassedOver.snoc (h : j₀.PassedOver ops l v) (op : Operation) : j₀.PassedOver (ops ++ [op]) l v := by
  obtain ⟨pre, o, post, r, rfl, h⟩ := h
  exact ⟨pre, o, post ++ [op], r, by rw [List.append_assoc, List.cons_append], h⟩

theorem mem_queue_traffic (j : Junction) (l : Lane) (v : Vehicle) :
    v ∈ (j.traffic.lanes.get l).queue.vehicles ↔ v ∈ (j.lanes.get l).queue.vehicles := by
  rw [traffic_lanes_get]
  rfl

theorem Steady.pending_or_passed (h : j₀.Steady) (hempty : ∀ l, (j₀.lanes.get l).queue.vehicles = [])
    (hreg : ∀ op ∈ ops, op.Regular) (hv : v ∈ ((j₀.after ops).lanes.get l).queue.vehicles)
    (hem : v.emergency = true) : (j₀.after ops).emergencies.isPending l = true ∨ j₀.PassedOver ops l v := by
  induction ops using List.reverseRecOn with
  | nil =>
    have hnone : v ∈ ([] : List Vehicle) := hempty l ▸ hv
    cases hnone
  | append_singleton ops op ih =>
    obtain ⟨hops, hlast⟩ := List.forall_mem_append.1 hreg
    have hop : op.Regular := List.forall_mem_singleton.1 hlast
    obtain ⟨hallow, ht⟩ := (h.after ops hops).traffic_next hop
    rw [after_append] at hv ⊢
    have hv' : v ∈ (((j₀.after ops).traffic.after (op.event (j₀.after ops))).lanes.get l).queue.vehicles := by
      rw [← ht]
      exact (mem_queue_traffic _ l v).2 hv
    have hpending : (op.next (j₀.after ops)).emergencies.isPending l =
        ((j₀.after ops).traffic.after (op.event (j₀.after ops))).emergencies.isPending l := by
      rw [← ht]
      rfl
    show (op.next (j₀.after ops)).emergencies.isPending l = true ∨ _
    rw [hpending]
    -- the vehicle has just raised its emergency, or what held of it before holds on unless this step passes it over
    rcases Traffic.mem_queue_after hv' with hbefore | hnew
    · rcases ih hops ((mem_queue_traffic _ l v).1 hbefore) with hp | hover
      · refine (Traffic.pending_or_behind hallow hp hv').imp_right ?_
        rintro ⟨r, hrec, hlane, hfull, hbehind⟩
        rw [traffic_lanes_get] at hbehind
        exact ⟨ops, op, [], r, rfl, hrec, hlane, hfull, hbehind⟩
      · exact .inr (hover.snoc op)
    · exact .inl (Traffic.pending_of_accepted hallow hnew hem)

/-- A step that handles an emergency with a vehicle left in the queue served a full batch ahead of it. -/
theorem Steady.full_of_mem (h : j.Steady) (hreg : op.Regular) (hr : op.record j = some r)
    (hv : v ∈ ((op.next j).lanes.get r.lane).queue.vehicles) :
    r.vehicles = j.settings.batchSize ∧ v ∈ (j.lanes.get r.lane).queue.vehicles.drop j.settings.batchSize := by
  obtain ⟨hallow, ht⟩ := h.traffic_next hreg
  rw [Traffic.Event.eq_stepped_of_record hr] at hallow ht
  have hv' : v ∈ (j.traffic.lanes.get r.lane).queue.vehicles.drop r.vehicles := by
    rw [← Traffic.queue_after_slice, ← ht]
    exact (mem_queue_traffic _ _ v).2 hv
  have hfull : r.vehicles = j.settings.batchSize := Traffic.full_of_mem_drop hallow hv'
  rw [hfull, traffic_lanes_get] at hv'
  exact ⟨hfull, hv'⟩

/-- **An emergency vehicle keeps its lane's emergency until it has crossed, or a full batch has crossed ahead of it.**
A step that handles an emergency while an emergency vehicle of the lane is still queued has served a full batch, and the
vehicle stood behind it. -/
theorem pending_or_passedOver (hb : b.build now = .ok j₀) (hreg : ∀ op ∈ ops, op.Regular) :
    (∀ l v, v ∈ ((j₀.after ops).lanes.get l).queue.vehicles → v.emergency = true →
      (j₀.after ops).emergencies.isPending l = true ∨ j₀.PassedOver ops l v) ∧
    ∀ (op : Operation) (r : SliceRecord) v, op.Regular → op.record (j₀.after ops) = some r →
      (j₀.after ops).emergencies.isPending r.lane = true →
      v ∈ ((op.next (j₀.after ops)).lanes.get r.lane).queue.vehicles → v.emergency = true →
      r.vehicles = (j₀.after ops).settings.batchSize ∧
        v ∈ ((j₀.after ops).lanes.get r.lane).queue.vehicles.drop (j₀.after ops).settings.batchSize := by
  have h₀ : j₀.Steady := .built hb
  exact ⟨fun l v hv hem => h₀.pending_or_passed (queue_built hb) hreg hv hem,
    fun op r v hop hr _ hv _ => (h₀.after ops hreg).full_of_mem hop hr hv⟩

/-- Three vehicles and an ambulance behind them come up to the north, and a batch of three crosses. -/
def ambulanceBehindBatch : List Operation :=
  .replicate 3 (.arrive .north none) ++ [.arrive .north (some .ambulance), .step]

/-- The ambulance is passed over. -/
theorem pending_or_passedOver_ambulance :
    let j₀ : Junction := Blueprint.assemble { config := {} } {} 0
    let v : Vehicle := { id := 3, arrivedMs := 0, emergency := true }
    v ∈ ((j₀.after ambulanceBehindBatch).lanes.get .north).queue.vehicles ∧ v.emergency = true ∧
      j₀.PassedOver ambulanceBehindBatch .north v := by
  have hbuilt : Blueprint.build { config := {} } 0 = .ok (Blueprint.assemble { config := {} } {} 0) := rfl
  have hreg : ∀ op ∈ ambulanceBehindBatch, op.Regular := by simp [ambulanceBehindBatch, Operation.Regular]
  obtain ⟨hkept, -⟩ := pending_or_passedOver hbuilt hreg
  refine ⟨by decide +kernel, rfl, (hkept .north _ (by decide +kernel) rfl).resolve_left (by decide +kernel)⟩

/-- **An emergency vehicle may be queued with nothing pending for its lane**: the step that passes the ambulance over
handles the emergency that it raised. -/
theorem queued_not_pending :
    let j₀ : Junction := Blueprint.assemble { config := {} } {} 0
    let ops : List Operation := ambulanceBehindBatch.dropLast
    Blueprint.build { config := {} } 0 = .ok j₀ ∧ (∀ op ∈ ambulanceBehindBatch, op.Regular) ∧
      (j₀.after ops).emergencies.isPending .north = true ∧
      ((j₀.after ambulanceBehindBatch).lanes.get .north).queue.hasEmergency = true ∧
      (j₀.after ambulanceBehindBatch).emergencies.isPending .north = false := by
  refine ⟨rfl, by simp [ambulanceBehindBatch, Operation.Regular], ?_, ?_, ?_⟩ <;> decide +kernel

end Junction
end Crossroads
