import Crossroads.Proofs.Traffic.Conservation
/-!
# Emergencies are handled once

An emergency that was raised is pending until a step lets its lane cross, and that step handles it
(`Junction.emergencies_attended`).  Until then further calls on the lane can only make it heavier: it keeps the pass it
was raised at, so the time until it was handled is counted from there.
-/
namespace Crossroads

variable {t : Traffic} {e : Traffic.Event} {l m : Lane} {ev : EmergencyEvent} {kind : EmergencyKind} {tick : Nat}
  {b : Blueprint} {now : Nat} {j j₀ : Junction} {op : Operation} {ops : List Operation}

/-! ## Slots -/

namespace Emergencies

variable {em : Emergencies}

/-- An emergency is pending since the same pass, and has not become lighter. -/
def Awaits (em : Emergencies) (l : Lane) (ev : EmergencyEvent) : Prop :=
  ∃ ev', em.slots.get l = some ev' ∧ ev'.arrivalTick = ev.arrivalTick ∧ ev.priority ≤ ev'.priority

/-- No emergency was raised after a pass. -/
def Stamped (em : Emergencies) (pass : Nat) : Prop := ∀ l ev, em.slots.get l = some ev → ev.arrivalTick ≤ pass

theorem Awaits.of_get (h : em.slots.get l = some ev) : em.Awaits l ev := ⟨ev, h, rfl, Nat.le_refl _⟩

theorem trigger_of_none (h : em.slots.get l = none) (kind : EmergencyKind) (tick : Nat) :
    em.trigger l kind tick = (true, ⟨em.slots.set l
      (some { lane := l, arrivalTick := tick, priority := kind.weight, kind := kind })⟩) := by
  rw [trigger, h]

theorem trigger_of_heavier (h : em.slots.get l = some ev) (hlt : ev.priority < kind.weight) (tick : Nat) :
    em.trigger l kind tick = (false, ⟨em.slots.set l
      (some { ev with priority := kind.weight, kind := kind })⟩) := by
  rw [trigger, h]
  exact if_pos hlt

theorem trigger_of_lighter (h : em.slots.get l = some ev) (hle : ¬ ev.priority < kind.weight) (tick : Nat) :
    em.trigger l kind tick = (false, em) := by
  rw [trigger, h]
  exact if_neg hle

theorem get_trigger_of_ne (em : Emergencies) (kind : EmergencyKind) (tick : Nat) (h : m ≠ l) :
    (em.trigger l kind tick).2.slots.get m = em.slots.get m := by
  cases hs : em.slots.get l with
  | none => rw [trigger_of_none hs, PerLane.get_set_of_ne _ _ h]
  | some ev =>
    by_cases hlt : ev.priority < kind.weight
    · rw [trigger_of_heavier hs hlt, PerLane.get_set_of_ne _ _ h]
    · rw [trigger_of_lighter hs hlt]

theorem awaits_trigger_self (h : em.slots.get l = some ev) (kind : EmergencyKind) (tick : Nat) :
    (em.trigger l kind tick).2.Awaits l ev := by
  by_cases hlt : ev.priority < kind.weight
  · rw [trigger_of_heavier h hlt]
    exact ⟨_, PerLane.get_set_self _ _ _, rfl, Nat.le_of_lt hlt⟩
  · rw [trigger_of_lighter h hlt]
    exact .of_get h

theorem Awaits.trigger (h : em.Awaits l ev) (m : Lane) (kind : EmergencyKind) (tick : Nat) :
    (em.trigger m kind tick).2.Awaits l ev := by
  obtain ⟨ev', hs, harr, hpri⟩ := h
  by_cases hm : l = m
  · subst hm
    obtain ⟨ev₂, hs₂, harr₂, hpri₂⟩ := awaits_trigger_self hs kind tick
    exact ⟨ev₂, hs₂, harr₂.trans harr, Nat.le_trans hpri hpri₂⟩
  · exact ⟨ev', (em.get_trigger_of_ne kind tick hm).trans hs, harr, hpri⟩

/-- What holds of every pending emergency holds after a call too, if it holds of a new one and stays when one becomes
heavier. -/
theorem forall_trigger {p : Lane → EmergencyEvent → Prop} (h : ∀ m ev, em.slots.get m = some ev → p m ev)
    (hnew : p l { lane := l, arrivalTick := tick, priority := kind.weight, kind := kind })
    (hheavier : ∀ ev, p l ev → p l { ev with priority := kind.weight, kind := kind }) :
    ∀ m ev, (em.trigger l kind tick).2.slots.get m = some ev → p m ev := by
  intro m ev hev
  by_cases hm : m = l
  · subst hm
    cases hs : em.slots.get m with
    | none =>
      rw [trigger_of_none hs, PerLane.get_set_self] at hev
      cases hev
      exact hnew
    | some ev₀ =>
      by_cases hlt : ev₀.priority < kind.weight
      · rw [trigger_of_heavier hs hlt, PerLane.get_set_self] at hev
        cases hev
        exact hheavier ev₀ (h m ev₀ hs)
      · rw [trigger_of_lighter hs hlt] at hev
        exact h m ev hev
  · rw [em.get_trigger_of_ne kind tick hm] at hev
    exact h m ev hev

theorem Stamped.trigger (h : em.Stamped tick) (m : Lane) (kind : EmergencyKind) :
    (em.trigger m kind tick).2.Stamped tick :=
  forall_trigger h (Nat.le_refl _) fun _ hev => hev

theorem get_resolve_self (em : Emergencies) (l : Lane) : (em.resolve l).2.slots.get l = none := by
  unfold resolve
  cases hs : em.slots.get l with
  | none => exact hs
  | some ev => exact PerLane.get_set_self _ _ _

theorem get_resolve_of_ne (em : Emergencies) (h : m ≠ l) : (em.resolve l).2.slots.get m = em.slots.get m := by
  unfold resolve
  cases em.slots.get l with
  | none => rfl
  | some ev => exact PerLane.get_set_of_ne _ _ h

theorem Awaits.resolve (h : em.Awaits l ev) (hm : l ≠ m) : (em.resolve m).2.Awaits l ev := by
  obtain ⟨ev', hs, hkept⟩ := h
  exact ⟨ev', (em.get_resolve_of_ne hm).trans hs, hkept⟩

/-- What holds of every pending emergency holds of those that are left. -/
theorem forall_resolve {p : Lane → EmergencyEvent → Prop} (h : ∀ m ev, em.slots.get m = some ev → p m ev) (l : Lane) :
    ∀ m ev, (em.resolve l).2.slots.get m = some ev → p m ev := by
  intro m ev hev
  by_cases hm : m = l
  · rw [hm, get_resolve_self] at hev
    cases hev
  · rw [get_resolve_of_ne em hm] at hev
    exact h m ev hev

theorem Stamped.resolve (h : em.Stamped tick) (l : Lane) : (em.resolve l).2.Stamped tick := forall_resolve h l

/-! ### Their number -/

theorem count_eq_sum (em : Emergencies) : em.count = (em.slots.map (fun slot => slot.isSome.toNat)).sum := by
  obtain ⟨north, south, east, west⟩ := em
  cases north <;> cases south <;> cases east <;> cases west <;> rfl

theorem count_set (em : Emergencies) (l : Lane) (slot : Option EmergencyEvent) :
    count ⟨em.slots.set l slot⟩ + (em.isPending l).toNat = em.count + slot.isSome.toNat := by
  have hsum := (em.slots.map (fun slot => slot.isSome.toNat)).sum_set l slot.isSome.toNat
  rw [PerLane.get_map] at hsum
  rw [count_eq_sum, count_eq_sum, PerLane.map_set]
  exact hsum

theorem count_trigger (em : Emergencies) (l : Lane) (kind : EmergencyKind) (tick : Nat) :
    (em.trigger l kind tick).2.count = em.count + (!em.isPending l).toNat := by
  cases hs : em.slots.get l with
  | none =>
    have hp : em.isPending l = false := by rw [isPending, hs]; rfl
    have hset := em.count_set l (some { lane := l, arrivalTick := tick, priority := kind.weight, kind := kind })
    rw [hp] at hset
    rw [trigger_of_none hs, hp]
    exact hset
  | some ev =>
    have hp : em.isPending l = true := by rw [isPending, hs]; rfl
    rw [hp]
    by_cases hlt : ev.priority < kind.weight
    · have hset := em.count_set l (some { ev with priority := kind.weight, kind := kind })
      rw [hp] at hset
      rw [trigger_of_heavier hs hlt]
      exact Nat.add_right_cancel hset
    · rw [trigger_of_lighter hs hlt]
      rfl

theorem count_resolve (em : Emergencies) (l : Lane) : (em.resolve l).2.count + (em.isPending l).toNat = em.count := by
  have hset := em.count_set l none
  unfold resolve
  cases hs : em.slots.get l with
  | none =>
    rw [isPending, hs]
    rfl
  | some ev => exact hset

theorem trigger_new (em : Emergencies) (l : Lane) (kind : EmergencyKind) (tick : Nat) :
    (em.trigger l kind tick).1 = !em.isPending l := by
  rw [isPending]
  cases hs : em.slots.get l with
  | none =>
    rw [trigger_of_none hs]
    rfl
  | some ev =>
    by_cases hlt : ev.priority < kind.weight
    · rw [trigger_of_heavier hs hlt]
      rfl
    · rw [trigger_of_lighter hs hlt]
      rfl

end Emergencies

/-! ## Events -/

namespace Traffic

/-- Whether an event raises a new emergency: it makes a call that answers so. -/
def raises (t : Traffic) : Event → Bool
  | .admitted l _ (some kind) | .called l kind => (t.emergencies.trigger l kind t.passes).1
  | _ => false

/-- **An emergency stays pending**, as old as it was and no lighter, unless its lane crosses. -/
theorem awaits_after (h : t.emergencies.Awaits l ev) (hr : ∀ r, e.record = some r → r.lane ≠ l) :
    (t.after e).emergencies.Awaits l ev := by
  cases e with
  | idle | turnedAway => exact h
  | called m kind => exact h.trigger m kind _
  | admitted m v emergency =>
    cases emergency with
    | none => exact h
    | some kind => exact h.trigger m kind _
  | stepped record =>
    cases record with
    | none => exact h
    | some r => exact h.resolve (Ne.symm (hr r rfl))

theorem stamped_after (h : t.emergencies.Stamped t.passes) (e : Event) :
    (t.after e).emergencies.Stamped (t.after e).passes := by
  -- the passes only grow, so what was stamped before one is stamped before the next
  have hpass : t.emergencies.Stamped (t.passes + 1) := fun m ev hs => Nat.le_succ_of_le (h m ev hs)
  cases e with
  | idle | turnedAway => exact h
  | called m kind => exact h.trigger m kind
  | admitted m v emergency =>
    cases emergency with
    | none => exact h
    | some kind => exact h.trigger m kind
  | stepped record =>
    cases record with
    | none => exact hpass
    | some r => exact hpass.resolve r.lane

theorem attended_after (t : Traffic) (e : Event) :
    (t.after e).tally.handled + (t.after e).emergencies.count =
      t.tally.handled + t.emergencies.count + (t.raises e).toNat := by
  have hcall : ∀ m kind, t.tally.handled + (t.emergencies.trigger m kind t.passes).2.count =
      t.tally.handled + t.emergencies.count + (t.emergencies.trigger m kind t.passes).1.toNat := fun m kind => by
    rw [Emergencies.count_trigger, Emergencies.trigger_new, Nat.add_assoc]
  cases e with
  | idle | turnedAway => rfl
  | called m kind => exact hcall m kind
  | admitted m v emergency =>
    cases emergency with
    | none => rfl
    | some kind => exact hcall m kind
  | stepped record =>
    cases record with
    | none => rfl
    | some r =>
      have hcount := t.emergencies.count_resolve r.lane
      show t.tally.handled + (t.emergencies.isPending r.lane).toNat + (t.emergencies.resolve r.lane).2.count =
        t.tally.handled + t.emergencies.count
      omega

end Traffic

/-! ## Runs -/

namespace Junction

/-- How many new emergencies a run raises. -/
def raised (j : Junction) (ops : List Operation) : Nat := (j.history ops).countP (fun p => p.1.raises p.2)

/-- The slices that the steps of a run report, in order. -/
def records (j : Junction) (ops : List Operation) : List SliceRecord := (j.history ops).filterMap (fun p => p.2.record)

theorem Steady.attended (h : j.Steady) (hreg : ∀ op ∈ ops, op.Regular) :
    j.metrics.emergenciesHandled + j.emergencies.count + j.raised ops =
      (j.after ops).metrics.emergenciesHandled + (j.after ops).emergencies.count := by
  let attended (t : Traffic) : Nat := t.tally.handled + t.emergencies.count
  show attended j.traffic + (j.history ops).countP (fun p => p.1.raises p.2) = attended (j.after ops).traffic
  refine h.history_induction (P := fun t rest => attended t + rest.countP (fun p => p.1.raises p.2) =
    attended (j.after ops).traffic) (fun t e rest _ _ ih => ?_) ops hreg rfl
  have hone : attended (t.after e) = attended t + (t.raises e).toNat := t.attended_after e
  have hcount : List.countP (fun p => p.1.raises p.2) ((t, e) :: rest) =
      (t.raises e).toNat + rest.countP (fun p => p.1.raises p.2) := by
    rw [List.countP_cons, Nat.add_comm]
    cases t.raises e <;> rfl
  rw [hcount, ← Nat.add_assoc, ← hone]
  exact ih

theorem Steady.stamped (h : j.Steady) (hs : j.emergencies.Stamped j.scheduler.tick)
    (hreg : ∀ op ∈ ops, op.Regular) : (j.after ops).emergencies.Stamped (j.after ops).scheduler.tick := by
  induction ops generalizing j with
  | nil => exact hs
  | cons op ops ih =>
    obtain ⟨hop, hops⟩ := List.forall_mem_cons.1 hreg
    have hnext : (op.next j).traffic.emergencies.Stamped (op.next j).traffic.passes := by
      rw [(h.traffic_next hop).2]
      exact Traffic.stamped_after (t := j.traffic) hs (op.event j)
    exact ih (h.next hop) hnext hops

theorem mem_records_cons {r : SliceRecord} :
    r ∈ j.records (op :: ops) ↔ op.record j = some r ∨ r ∈ (op.next j).records ops := by
  simp only [records, history, Operation.record, List.mem_filterMap, List.mem_cons, exists_eq_or_imp]

theorem Steady.awaits (h : j.Steady) (hreg : ∀ op ∈ ops, op.Regular) (hp : j.emergencies.Awaits l ev)
    (hr : ∀ r ∈ j.records ops, r.lane ≠ l) : (j.after ops).emergencies.Awaits l ev := by
  induction ops generalizing j with
  | nil => exact hp
  | cons op ops ih =>
    obtain ⟨hop, hops⟩ := List.forall_mem_cons.1 hreg
    have hnext : (op.next j).traffic.emergencies.Awaits l ev := by
      rw [(h.traffic_next hop).2]
      exact Traffic.awaits_after (t := j.traffic) hp fun r hrec => hr r (mem_records_cons.2 (.inl hrec))
    exact ih (h.next hop) hops hnext fun r hrec => hr r (mem_records_cons.2 (.inr hrec))

/-- What an operation makes of the pending emergency of the lane that crosses. -/
structure Handles (j i : Junction) (l : Lane) (ev : EmergencyEvent) : Prop where
  gone : i.emergencies.slots.get l = none
  others : ∀ m, m ≠ l → i.emergencies.slots.get m = j.emergencies.slots.get m
  handled : i.metrics.emergenciesHandled = j.metrics.emergenciesHandled + 1
  response : i.metrics.emergencyResponseTicks = j.metrics.emergencyResponseTicks + (i.scheduler.tick - ev.arrivalTick)
  later : ev.arrivalTick < i.scheduler.tick

theorem Steady.handles (h : j.Steady) (hs : j.emergencies.Stamped j.scheduler.tick) (hreg : op.Regular)
    {r : SliceRecord} (hr : op.record j = some r) (hev : j.emergencies.slots.get r.lane = some ev) :
    j.Handles (op.next j) r.lane ev := by
  have ht := (h.traffic_next hreg).2
  rw [Traffic.Event.eq_stepped_of_record hr] at ht
  have hpass : (op.next j).scheduler.tick = j.scheduler.tick + 1 := congrArg Traffic.passes ht
  have hslots : (op.next j).emergencies = (j.emergencies.resolve r.lane).2 := congrArg Traffic.emergencies ht
  have htally : (op.next j).metrics.tally = _ := congrArg Traffic.tally ht
  have hpending : j.emergencies.isPending r.lane = true := by rw [Emergencies.isPending, hev]; rfl
  have hhandled : (op.next j).metrics.emergenciesHandled = j.metrics.emergenciesHandled + _ :=
    congrArg Tally.handled htally
  have hresponse : (op.next j).metrics.emergencyResponseTicks = j.metrics.emergencyResponseTicks +
    (j.emergencies.slots.get r.lane).elim 0 (j.scheduler.tick + 1 - ·.arrivalTick) := congrArg Tally.responseTicks htally
  refine ⟨?_, fun m hm => ?_, ?_, ?_, ?_⟩
  · rw [hslots]
    exact j.emergencies.get_resolve_self r.lane
  · rw [hslots]
    exact j.emergencies.get_resolve_of_ne hm
  · rw [hhandled]
    show _ + (j.emergencies.isPending r.lane).toNat = _
    rw [hpending]
    rfl
  · rw [hresponse, hev, hpass]
    rfl
  · rw [hpass]
    exact Nat.lt_succ_of_le (hs r.lane ev hev)

structure Attended (j₀ : Junction) (ops : List Operation) : Prop where
  /-- All that were raised are handled or pending. -/
  balance : j₀.raised ops = (j₀.after ops).metrics.emergenciesHandled + (j₀.after ops).emergencies.count
  /-- A call raises a new one, and answers so, if none is pending for the lane. -/
  answered : ∀ l kind, ((Operation.emergency l kind).runOn (j₀.after ops)).1 =
    .ok (.flag (!(j₀.after ops).emergencies.isPending l))
  /-- A pending one stays, whatever else is done, until a step reports a slice of its lane. -/
  stays : ∀ more l ev, (∀ op ∈ more, op.Regular) → (j₀.after ops).emergencies.slots.get l = some ev →
    (∀ r ∈ (j₀.after ops).records more, r.lane ≠ l) → (j₀.after (ops ++ more)).emergencies.Awaits l ev
  /-- The step that reports a slice of its lane handles it. -/
  handles : ∀ op r ev, op.Regular → op.record (j₀.after ops) = some r →
    (j₀.after ops).emergencies.slots.get r.lane = some ev → (j₀.after ops).Handles (j₀.after (ops ++ [op])) r.lane ev

/-- **No emergency is lost, and each is handled once**, whatever is done to a junction that is built afresh. -/
theorem emergencies_attended (hb : b.build now = .ok j₀) (hreg : ∀ op ∈ ops, op.Regular) : j₀.Attended ops := by
  have h₀ : j₀.Steady := .built hb
  have hnone : ∀ l, j₀.emergencies.slots.get l = none := fun l => by
    rw [Blueprint.eq_assemble hb]
    exact PerLane.get_replicate none l
  have hstamped : j₀.emergencies.Stamped j₀.scheduler.tick := fun l ev hs => by
    rw [hnone l] at hs
    cases hs
  have hzero : j₀.metrics.emergenciesHandled + j₀.emergencies.count = 0 := by
    rw [Blueprint.eq_assemble hb]
    rfl
  have hrun := h₀.after ops hreg
  refine ⟨?_, fun l kind => ?_, fun more l ev hmore hs hr => ?_, fun op r ev hop hr hs => ?_⟩
  · have hsum := h₀.attended hreg
    rw [hzero, Nat.zero_add] at hsum
    exact hsum
  · have hnew := (j₀.after ops).emergencies.trigger_new l kind (j₀.after ops).scheduler.tick
    rw [← hnew]
    rfl
  · rw [after_append]
    exact hrun.awaits hmore (.of_get hs) hr
  · rw [after_append]
    exact hrun.handles (h₀.stamped hstamped hreg) hop hr hs

/-- Two calls in the south are one emergency, which the next step handles. -/
theorem emergencies_attended_south :
    let j₀ : Junction := Blueprint.assemble { config := {} } {} 0
    let ops : List Operation := [.emergency .south .police, .emergency .south .ambulance, .step]
    j₀.Attended ops ∧ j₀.raised ops = 1 ∧ (j₀.after ops).metrics.emergenciesHandled = 1 := by
  have hbuilt : Blueprint.build { config := {} } 0 = .ok (Blueprint.assemble { config := {} } {} 0) := rfl
  exact ⟨emergencies_attended hbuilt (by simp [Operation.Regular]), by decide +kernel, by decide +kernel⟩

end Junction
end Crossroads
