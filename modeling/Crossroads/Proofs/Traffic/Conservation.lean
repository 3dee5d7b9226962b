import Crossroads.Proofs.Traffic.Events
/-!
# Conservation of vehicles

A vehicle that was let in stands in its lane's queue until a slice clears it, and slices clear from the head.  So what
a lane has cleared, followed by its queue, is what it was given, in order (`Junction.vehicles_conserved`).  The counters
agree with that (`Traffic.Balanced`).
-/
namespace Crossroads

variable {t : Traffic} {e : Traffic.Event} {l m : Lane} {v : Vehicle} {n : Nat} {b : Blueprint} {now : Nat}
  {j j₀ : Junction} {op : Operation} {ops : List Operation}

theorem PerLane.forall_modify {α : Type} {p : PerLane α} {P : α → Prop} {f : α → α} (h : ∀ m, P (p.get m))
    (hf : P (f (p.get l))) (m : Lane) : P ((p.modify l f).get m) := by
  rw [modify, get_set]
  split
  · exact hf
  · exact h m

/-- Changing one entry of a table changes a sum over it by the difference. -/
theorem PerLane.sum_map_modify {α : Type} (p : PerLane α) (l : Lane) (f : α → α) (g : α → Nat) :
    ((p.modify l f).map g).sum + g (p.get l) = (p.map g).sum + g (f (p.get l)) := by
  have h := (p.map g).sum_set l (g (f (p.get l)))
  rw [get_map] at h
  rw [modify, map_set]
  exact h

/-! ## Counters -/

/-- The counters of a lane agree with its queue. -/
structure LaneTraffic.Balanced (t : LaneTraffic) : Prop where
  cached : t.Cached
  served : t.totalArrivals = t.totalServed + t.queueLength

/-- The counters agree with each other and with the queues. -/
structure Traffic.Balanced (t : Traffic) : Prop where
  lanes : ∀ l, (t.lanes.get l).Balanced
  numbered : t.tally.generated = t.nextVehicle
  arrived : t.nextVehicle = t.tally.overflows + (t.lanes.map (·.totalArrivals)).sum
  processed : t.tally.processed = (t.lanes.map (·.totalServed)).sum

theorem LaneTraffic.Balanced.letIn {t : LaneTraffic} (h : t.Balanced) (v : Vehicle) : (t.letIn v).Balanced where
  cached := by
    show t.queue.length + 1 = (t.queue.vehicles ++ [v]).length
    rw [List.length_append]
    rfl
  served := by
    have hs := h.served
    have hc : t.queueLength = t.queue.length := h.cached
    show t.totalArrivals + 1 = t.totalServed + (t.queue.length + 1)
    omega

theorem LaneTraffic.Balanced.serve {t : LaneTraffic} (h : t.Balanced) (hn : n ≤ t.queue.length) :
    (t.serve n).Balanced where
  cached := by
    show t.queueLength - n = (t.queue.vehicles.drop n).length
    rw [List.length_drop, h.cached]
    rfl
  served := by
    have hs := h.served
    have hc : t.queueLength = t.queue.length := h.cached
    show t.totalArrivals = t.totalServed + n + (t.queueLength - n)
    omega

namespace Traffic

theorem Balanced.emergencies {e : Emergencies} {handled ticks passes : Nat} (h : t.Balanced) : Balanced { t with
    emergencies := e, passes := passes, tally := { t.tally with handled := handled, responseTicks := ticks } } :=
  ⟨h.lanes, h.numbered, h.arrived, h.processed⟩

theorem Balanced.turnAway (h : t.Balanced) : t.number.turnAway.Balanced where
  lanes := h.lanes
  numbered := congrArg (· + 1) h.numbered
  arrived := (congrArg (· + 1) h.arrived).trans (Nat.add_right_comm _ _ _)
  processed := h.processed

theorem Balanced.letIn (h : t.Balanced) (l : Lane) (v : Vehicle) : (t.number.letIn l v).Balanced where
  lanes := PerLane.forall_modify h.lanes ((h.lanes l).letIn v)
  numbered := congrArg (· + 1) h.numbered
  arrived := by
    have hsum : ((t.lanes.modify l (·.letIn v)).map (·.totalArrivals)).sum + (t.lanes.get l).totalArrivals =
        (t.lanes.map (·.totalArrivals)).sum + ((t.lanes.get l).totalArrivals + 1) := t.lanes.sum_map_modify l _ _
    have harr := h.arrived
    show t.nextVehicle + 1 = t.tally.overflows + ((t.lanes.modify l (·.letIn v)).map (·.totalArrivals)).sum
    omega
  processed := by
    have hsum : ((t.lanes.modify l (·.letIn v)).map (·.totalServed)).sum + (t.lanes.get l).totalServed =
        (t.lanes.map (·.totalServed)).sum + (t.lanes.get l).totalServed := t.lanes.sum_map_modify l _ _
    exact h.processed.trans (Nat.add_right_cancel hsum).symm

theorem Balanced.serve (h : t.Balanced) (hn : n ≤ (t.lanes.get l).queue.length) : (t.serve l n).Balanced where
  lanes := PerLane.forall_modify h.lanes ((h.lanes l).serve hn)
  numbered := h.numbered
  arrived := by
    have hsum : ((t.lanes.modify l (·.serve n)).map (·.totalArrivals)).sum + (t.lanes.get l).totalArrivals =
        (t.lanes.map (·.totalArrivals)).sum + (t.lanes.get l).totalArrivals := t.lanes.sum_map_modify l _ _
    exact h.arrived.trans (congrArg (t.tally.overflows + ·) (Nat.add_right_cancel hsum).symm)
  processed := by
    have hsum : ((t.lanes.modify l (·.serve n)).map (·.totalServed)).sum + (t.lanes.get l).totalServed =
        (t.lanes.map (·.totalServed)).sum + ((t.lanes.get l).totalServed + n) := t.lanes.sum_map_modify l _ _
    have hproc := h.processed
    show t.tally.processed + n = ((t.lanes.modify l (·.serve n)).map (·.totalServed)).sum
    omega

theorem Balanced.crossing (h : t.Balanced) {record : Option SliceRecord} (hb : t.Batch record) :
    (t.crossing record).Balanced := by
  cases record with
  | none => exact h
  | some r =>
    have hn : r.vehicles ≤ (t.lanes.get r.lane).queue.length := hb r rfl ▸ Nat.min_le_right _ _
    exact (h.serve hn).emergencies

/-- **Every event keeps the balance.** -/
theorem Balanced.after (h : t.Balanced) (ha : t.Allows e) : (t.after e).Balanced := by
  cases e with
  | idle => exact h
  | turnedAway => exact h.turnAway
  | admitted l v emergency => exact (h.letIn l v).emergencies
  | called l kind => exact h.emergencies
  | stepped record => exact Balanced.crossing (t := t.pass) h.emergencies ha

theorem Balanced.cached (h : t.Balanced) : t.Cached := fun l => (h.lanes l).cached

end Traffic

/-! ## Runs -/

namespace Junction

/-- A junction in which at most one lane runs, the scheduler's current one, and whose counters agree. -/
structure Steady (j : Junction) : Prop where
  exclusive : j.Exclusive
  linked : j.Linked
  balanced : j.traffic.Balanced

theorem Steady.built (h : b.build now = .ok j) : j.Steady where
  exclusive := Blueprint.exclusive_build h
  linked := Blueprint.linked_build h
  balanced := by
    rw [Blueprint.eq_assemble h]
    exact ⟨fun l => by rw [traffic_lanes_get, Blueprint.assemble, PerLane.get_ofFn]; exact ⟨rfl, rfl⟩, rfl, rfl, rfl⟩

theorem queue_built (hb : b.build now = .ok j) (l : Lane) : (j.lanes.get l).queue.vehicles = [] := by
  rw [Blueprint.eq_assemble hb, Blueprint.assemble, PerLane.get_ofFn]
  rfl

theorem Steady.traffic_next (h : j.Steady) (hreg : op.Regular) :
    j.traffic.Allows (op.event j) ∧ (op.next j).traffic = j.traffic.after (op.event j) :=
  op.traffic_next hreg h.exclusive h.linked h.balanced.cached

theorem Steady.next (h : j.Steady) (hreg : op.Regular) : (op.next j).Steady := by
  obtain ⟨hallow, ht⟩ := h.traffic_next hreg
  obtain ⟨he, hl, -⟩ := op.keepsOrder hreg.ne_setState h.exclusive h.linked
  exact ⟨he, hl, ht ▸ h.balanced.after hallow⟩

theorem Steady.after : ∀ (ops : List Operation) {j : Junction}, j.Steady → (∀ op ∈ ops, op.Regular) →
    (j.after ops).Steady
  | [], _, h, _ => h
  | op :: ops, _, h, hreg => by
    obtain ⟨hop, hops⟩ := List.forall_mem_cons.1 hreg
    exact Steady.after ops (h.next hop) hops

/-- The events of a run, each with the traffic that it meets. -/
def history : Junction → List Operation → List (Traffic × Traffic.Event)
  | _, [] => []
  | j, op :: ops => (j.traffic, op.event j) :: history (op.next j) ops

/-- **What holds of the rest of a run.** A relation between the traffic and the events to come holds at the start if it
holds at the end and goes back over every event. -/
theorem Steady.history_induction {P : Traffic → List (Traffic × Traffic.Event) → Prop}
    (hstep : ∀ t e rest, t.Balanced → t.Allows e → P (t.after e) rest → P t ((t, e) :: rest)) :
    ∀ (ops : List Operation) {j : Junction}, j.Steady → (∀ op ∈ ops, op.Regular) → P (j.after ops).traffic [] →
      P j.traffic (j.history ops)
  | [], _, _, _, hend => hend
  | op :: ops, j, h, hreg, hend => by
    obtain ⟨hop, htail⟩ := List.forall_mem_cons.1 hreg
    obtain ⟨hallow, ht⟩ := h.traffic_next hop
    have hrest := history_induction hstep ops (h.next hop) htail hend
    rw [ht] at hrest
    exact hstep j.traffic (op.event j) _ h.balanced hallow hrest

end Junction

/-! ## Vehicles -/

namespace Traffic

/-- The vehicle that an event lets in, with its lane. -/
def Event.accepted : Event → List (Lane × Vehicle)
  | .admitted l v _ => [(l, v)]
  | _ => []

/-- The vehicles that an event clears from a lane: a recorded slice takes as many as it counts from the head of its
lane's queue. -/
def cleared (t : Traffic) (l : Lane) : Event → List Vehicle
  | .stepped (some r) => if r.lane = l then (t.lanes.get l).queue.vehicles.take r.vehicles else []
  | _ => []

def onLane (l : Lane) (accepted : List (Lane × Vehicle)) : List Vehicle :=
  accepted.filterMap (fun p => if p.1 = l then some p.2 else none)

theorem mem_onLane {accepted : List (Lane × Vehicle)} : v ∈ onLane l accepted ↔ (l, v) ∈ accepted := by
  rw [onLane, List.mem_filterMap]
  constructor
  · rintro ⟨⟨m, w⟩, hmem, h⟩
    split at h
    · rename_i hm
      cases h
      cases hm
      exact hmem
    · cases h
  · exact fun h => ⟨_, h, if_pos rfl⟩

/-- **An event puts its vehicle at the end of the queue and clears from the head.** -/
theorem queue_after (t : Traffic) (e : Event) (l : Lane) :
    (t.lanes.get l).queue.vehicles ++ onLane l e.accepted =
      t.cleared l e ++ ((t.after e).lanes.get l).queue.vehicles := by
  cases e with
  | idle | turnedAway | called => exact List.append_nil _
  | admitted m v emergency =>
    show _ = ((t.lanes.modify m (·.letIn v)).get l).queue.vehicles
    rw [PerLane.modify, PerLane.get_set, Event.accepted, onLane]
    by_cases hm : l = m
    · subst hm
      rw [if_pos rfl]
      simp only [List.filterMap_cons, if_true, List.filterMap_nil]
      rfl
    · rw [if_neg hm]
      simp only [List.filterMap_cons, if_neg (Ne.symm hm), List.filterMap_nil, List.append_nil]
  | stepped record =>
    refine (List.append_nil _).trans ?_
    cases record with
    | none => rfl
    | some r =>
      show _ = _ ++ ((t.lanes.modify r.lane (·.serve r.vehicles)).get l).queue.vehicles
      rw [PerLane.modify, PerLane.get_set, cleared]
      by_cases hl : l = r.lane
      · subst hl
        rw [if_pos rfl, if_pos rfl]
        exact (List.take_append_drop _ _).symm
      · rw [if_neg hl, if_neg (Ne.symm hl)]
        rfl

theorem nextVehicle_le_after (t : Traffic) (e : Event) : t.nextVehicle ≤ (t.after e).nextVehicle := by
  cases e with
  | idle | called => exact Nat.le_refl _
  | turnedAway | admitted => exact Nat.le_succ _
  | stepped record => cases record <;> exact Nat.le_refl _

end Traffic

namespace Junction

/-- The vehicles that a run lets in, with their lanes, in order. -/
def accepted (j : Junction) (ops : List Operation) : List (Lane × Vehicle) :=
  (j.history ops).flatMap (fun p => p.2.accepted)

/-- The vehicles that a run lets into a lane, in order. -/
def admitted (j : Junction) (ops : List Operation) (l : Lane) : List Vehicle := Traffic.onLane l (j.accepted ops)

/-- The vehicles that the slices of a run clear from a lane, in order. -/
def cleared (j : Junction) (ops : List Operation) (l : Lane) : List Vehicle :=
  (j.history ops).flatMap (fun p => p.1.cleared l p.2)

theorem Steady.queue_append (h : j.Steady) (hreg : ∀ op ∈ ops, op.Regular) (l : Lane) :
    (j.lanes.get l).queue.vehicles ++ j.admitted ops l =
      j.cleared ops l ++ ((j.after ops).lanes.get l).queue.vehicles := by
  let stands (t : Traffic) : List Vehicle := (t.lanes.get l).queue.vehicles
  have hrun : stands j.traffic ++ Traffic.onLane l ((j.history ops).flatMap (fun p => p.2.accepted)) =
      (j.history ops).flatMap (fun p => p.1.cleared l p.2) ++ stands (j.after ops).traffic := by
    refine h.history_induction (P := fun t rest => stands t ++ Traffic.onLane l (rest.flatMap (fun p => p.2.accepted)) =
      rest.flatMap (fun p => p.1.cleared l p.2) ++ stands (j.after ops).traffic) ?_ ops hreg (List.append_nil _)
    intro t e rest _ _ ih
    rw [List.flatMap_cons, List.flatMap_cons, Traffic.onLane, List.filterMap_append, ← List.append_assoc]
    calc stands t ++ Traffic.onLane l e.accepted ++ Traffic.onLane l (rest.flatMap (fun p => p.2.accepted))
      _ = t.cleared l e ++ stands (t.after e) ++ Traffic.onLane l (rest.flatMap (fun p => p.2.accepted)) := by
        rw [t.queue_after e l]
      _ = t.cleared l e ++ (rest.flatMap (fun p => p.1.cleared l p.2) ++ stands (j.after ops).traffic) := by
        rw [List.append_assoc, ih]
      _ = _ := (List.append_assoc ..).symm
  simp only [stands, traffic_lanes_get] at hrun
  exact hrun

/-- **Vehicles are numbered in the order in which they are let in.** -/
theorem Steady.accepted_ordered (h : j.Steady) (hreg : ∀ op ∈ ops, op.Regular) :
    (j.accepted ops).Pairwise (fun p q => p.2.id < q.2.id) := by
  suffices hs : (∀ p ∈ j.accepted ops, j.traffic.nextVehicle ≤ p.2.id) ∧
      (j.accepted ops).Pairwise (fun p q => p.2.id < q.2.id) from hs.2
  refine h.history_induction (P := fun t rest =>
    (∀ p ∈ rest.flatMap (fun p => p.2.accepted), t.nextVehicle ≤ p.2.id) ∧
      (rest.flatMap (fun p => p.2.accepted)).Pairwise (fun p q => p.2.id < q.2.id)) ?_ ops hreg ⟨nofun, .nil⟩
  intro t e rest _ hallow ih
  have hle := t.nextVehicle_le_after e
  have hlater : ∀ p ∈ rest.flatMap (fun p => p.2.accepted), t.nextVehicle ≤ p.2.id :=
    fun p hp => Nat.le_trans hle (ih.1 p hp)
  rw [List.flatMap_cons]
  cases e with
  | admitted l v emergency =>
    have hid : v.id = t.nextVehicle := hallow.1
    have hnext : (t.after (.admitted l v emergency)).nextVehicle = t.nextVehicle + 1 := rfl
    refine ⟨fun p hp => ?_, List.pairwise_cons.2 ⟨fun p hp => ?_, ih.2⟩⟩
    · rcases List.mem_cons.1 hp with rfl | hp
      · exact Nat.le_of_eq hid.symm
      · exact hlater p hp
    · have hp := ih.1 p hp
      show v.id < p.2.id
      omega
  | _ => exact ⟨hlater, ih.2⟩

theorem Steady.admitted_ordered (h : j.Steady) (hreg : ∀ op ∈ ops, op.Regular) (l : Lane) :
    (j.admitted ops l).Pairwise (fun v w => v.id < w.id) := by
  refine (List.pairwise_filterMap).2 ((h.accepted_ordered hreg).imp ?_)
  intro p q hpq v hv w hw
  split at hv
  · split at hw
    · cases hv
      cases hw
      exact hpq
    · cases hw
  · cases hv

theorem Steady.lane_eq_of_id_eq (h : j.Steady) (hreg : ∀ op ∈ ops, op.Regular) {v w : Vehicle}
    (hv : v ∈ j.admitted ops l) (hw : w ∈ j.admitted ops m) (hid : v.id = w.id) : l = m := by
  have hsymm : Std.Symm (fun p q : Lane × Vehicle => p.2.id ≠ q.2.id) := ⟨fun _ _ => Ne.symm⟩
  have hne : (j.accepted ops).Pairwise (fun p q => p.2.id ≠ q.2.id) := (h.accepted_ordered hreg).imp Nat.ne_of_lt
  by_contra hlm
  exact hne.forall (Traffic.mem_onLane.1 hv) (Traffic.mem_onLane.1 hw) (fun he => hlm (congrArg Prod.fst he)) hid

theorem arrive_refused {kind : Option EmergencyKind} {f : Fault}
    (hf : ((Operation.arrive l kind).runOn j).1 = .error f) :
    f = .refused (.queueFull (j.lanes.get l).queue.capacity) ∧ ((Operation.arrive l kind).next j).lanes = j.lanes ∧
      ((Operation.arrive l kind).next j).emergencies = j.emergencies := by
  have hrun : (Operation.arrive l kind).runOn j =
      (((generateArrival l kind).runOn j).1.map .number, ((generateArrival l kind).runOn j).2) :=
    Operation.runOn_then_pure _ _ _
  rw [Operation.next, hrun]
  rw [hrun] at hf
  rw [runOn_generateArrival] at hf ⊢
  cases hq : (j.lanes.get l).enqueue (j.incoming kind) with
  | ok a =>
    rw [hq] at hf
    cases hf
  | error e =>
    rw [hq] at hf
    cases hf
    rw [(Approach.enqueue_eq_error_iff.1 hq).2]
    exact ⟨rfl, rfl, rfl⟩

structure Conserved (j₀ : Junction) (ops : List Operation) : Prop where
  /-- What a lane has cleared and what it still has are what it was given, in order. -/
  queues : ∀ l, j₀.cleared ops l ++ ((j₀.after ops).lanes.get l).queue.vehicles = j₀.admitted ops l
  ordered : ∀ l, (j₀.admitted ops l).Pairwise (fun v w => v.id < w.id)
  apart : ∀ l m v w, v ∈ j₀.admitted ops l → w ∈ j₀.admitted ops m → v.id = w.id → l = m
  refused : ∀ l kind f, ((Operation.arrive l kind).runOn (j₀.after ops)).1 = .error f →
    f = .refused (.queueFull ((j₀.after ops).lanes.get l).queue.capacity) ∧
      ((Operation.arrive l kind).next (j₀.after ops)).lanes = (j₀.after ops).lanes ∧
      ((Operation.arrive l kind).next (j₀.after ops)).emergencies = (j₀.after ops).emergencies
  numbered : (j₀.after ops).metrics.totalGenerated = (j₀.after ops).nextVehicle
  arrived : (j₀.after ops).nextVehicle =
    (j₀.after ops).metrics.queueOverflows + ((j₀.after ops).lanes.map (·.totalArrivals)).sum
  processed : (j₀.after ops).metrics.totalProcessed = ((j₀.after ops).lanes.map (·.totalServed)).sum
  served : ∀ l, ((j₀.after ops).lanes.get l).totalArrivals =
    ((j₀.after ops).lanes.get l).totalServed + ((j₀.after ops).lanes.get l).queueLength
  cached : ∀ l, ((j₀.after ops).lanes.get l).queueLength = ((j₀.after ops).lanes.get l).queue.length

/-- **No vehicle is lost, doubled or put out of order**, whatever is done to a junction that is built afresh. -/
theorem vehicles_conserved (hb : b.build now = .ok j₀) (hreg : ∀ op ∈ ops, op.Regular) : j₀.Conserved ops := by
  have h₀ : j₀.Steady := .built hb
  have hbal := (h₀.after ops hreg).balanced
  have hlane : ∀ l, ((j₀.after ops).lanes.get l).traffic.Balanced := fun l => by
    have hl := hbal.lanes l
    rwa [traffic_lanes_get] at hl
  refine ⟨fun l => ?_, h₀.admitted_ordered hreg, fun l m v w => h₀.lane_eq_of_id_eq hreg, fun l kind f => arrive_refused,
    hbal.numbered, hbal.arrived, hbal.processed, fun l => (hlane l).served, fun l => (hlane l).cached⟩
  have hqueue := h₀.queue_append hreg l
  rw [queue_built hb l] at hqueue
  exact hqueue.symm

/-- Of four vehicles in the north a batch of three crosses, and the last one waits behind it. -/
theorem vehicles_conserved_batch :
    let j₀ : Junction := Blueprint.assemble { config := {} } {} 0
    let ops : List Operation := .step :: .replicate 4 (.arrive .north none) ++ [.step]
    j₀.Conserved ops ∧ (j₀.cleared ops .north).map (·.id) = [0, 1, 2] ∧
      (j₀.admitted ops .north).map (·.id) = [0, 1, 2, 3] := by
  have hbuilt : Blueprint.build { config := {} } 0 = .ok (Blueprint.assemble { config := {} } {} 0) := rfl
  exact ⟨vehicles_conserved hbuilt (by simp [Operation.Regular]), by decide +kernel, by decide +kernel⟩

end Junction
end Crossroads
