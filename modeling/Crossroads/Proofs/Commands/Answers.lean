import Crossroads.Proofs.Steps.HandsOff
/-!
# What the answer of a command says

A command answers whether it changed anything.  One that answers no, or is refused, has left the junction as it was
(`Command.truthful_apply`), but for an emergency that joins a lighter one on its lane: that is not a new one, and the
one that is pending grows heavier.
-/
namespace Crossroads

open Act

variable {c : Command} {j i : Junction} {l : Lane} {lane : Nat} {kind : EmergencyKind} {p : Policy} {b : Bool}
  {ev : EmergencyEvent}

/-- No lane runs, and the scheduler remembers none. -/
structure Junction.AtRest (j : Junction) : Prop where
  lanes : ∀ l, ¬ j.Runs l
  current : j.scheduler.current = none
  sliceCount : j.scheduler.sliceCount = 0
  readyQueue : j.scheduler.readyQueue = []

/-- Setting the policy in force again does nothing to a junction at rest. -/
theorem Junction.AtRest.reset_eq (h : j.AtRest) : { j with
    scheduler := { j.scheduler with current := none, sliceCount := 0, readyQueue := [] }
    lanes := j.lanes.map Approach.stepAside } = j := by
  have hlanes : j.lanes.map Approach.stepAside = j.lanes := by
    apply PerLane.ext_get
    intro l
    rw [PerLane.get_map, Approach.stepAside_of_ne (h.lanes l)]
  rw [hlanes, ← h.current, ← h.sliceCount, ← h.readyQueue]

namespace Lane

theorem ofIndex?_of_le (h : 4 ≤ lane) : ofIndex? lane = none := by
  obtain ⟨n, rfl⟩ := Nat.exists_eq_add_of_le' h
  rfl

theorem exists_index (h : lane < 4) : ∃ l : Lane, l.index = lane := by
  match lane, h with
  | 0, _ => exact ⟨north, rfl⟩
  | 1, _ => exact ⟨south, rfl⟩
  | 2, _ => exact ⟨east, rfl⟩
  | 3, _ => exact ⟨west, rfl⟩

end Lane

namespace Command

/-- The command raises an emergency on a lane where a lighter one is pending. -/
structure Reinforces (c : Command) (j : Junction) (l : Lane) (ev : EmergencyEvent) (kind : EmergencyKind) : Prop where
  command : c = .triggerEmergency l.index kind
  pending : j.emergencies.slots.get l = some ev
  lighter : ev.priority < kind.weight

/-- **What the answer of a command says** about the junction before and after it. -/
structure Truthful (c : Command) (j : Junction) (r : Except Fault Bool) (i : Junction) : Prop where
  /-- Nothing is refused but an emergency on a lane that does not exist. -/
  refused : ∀ e, r = .error e →
    i = j ∧ ∃ lane kind, c = .triggerEmergency lane kind ∧ 4 ≤ lane ∧ e = .refused (.invalidLane lane)
  answered : (∀ lane kind, c = .triggerEmergency lane kind → lane < 4) → ∃ b, r = .ok b
  changed : r = .ok true → i ≠ j
  unchanged : r = .ok false → (∀ l ev kind, ¬ c.Reinforces j l ev kind) →
    (c = .setPolicy j.scheduler.policy → j.AtRest) → i = j
  /-- The pending emergency takes the weight and the kind, and keeps its stamp. -/
  reinforced : ∀ l ev kind, c.Reinforces j l ev kind → r = .ok false ∧ i = { j with emergencies :=
    ⟨j.emergencies.slots.set l (some { ev with priority := kind.weight, kind := kind })⟩ }
  /-- The policy that is in force already is set again. -/
  reset : c = .setPolicy j.scheduler.policy → r = .ok false ∧ (∀ l, ¬ j.Runs l → i.lanes.get l = j.lanes.get l) ∧
    i = { j with lanes := i.lanes, scheduler := { j.scheduler with
      current := i.scheduler.current, sliceCount := i.scheduler.sliceCount, readyQueue := i.scheduler.readyQueue } }

/-- An answer is truthful that says whether anything changed. -/
theorem Truthful.of_iff (h : b = true ↔ i ≠ j) (hreinforced : ∀ l ev kind, ¬ c.Reinforces j l ev kind)
    (hreset : c ≠ .setPolicy j.scheduler.policy) : c.Truthful j (.ok b) i where
  refused := by
    intro e he
    cases he
  answered _ := ⟨b, rfl⟩
  changed hb := h.1 (Except.ok.inj hb)
  unchanged hb _ _ := by
    apply Classical.byContradiction
    intro hne
    rw [h.2 hne] at hb
    cases hb
  reinforced l ev kind hr := absurd hr (hreinforced l ev kind)
  reset hc := absurd hc hreset

/-- A command that answers no is truthful if it keeps what it is not known to change. -/
theorem Truthful.of_no
    (hkept : (∀ l ev kind, ¬ c.Reinforces j l ev kind) → (c = .setPolicy j.scheduler.policy → j.AtRest) → i = j)
    (hreinforced : ∀ l ev kind, c.Reinforces j l ev kind → i = { j with emergencies :=
      ⟨j.emergencies.slots.set l (some { ev with priority := kind.weight, kind := kind })⟩ })
    (hreset : c = .setPolicy j.scheduler.policy → (∀ l, ¬ j.Runs l → i.lanes.get l = j.lanes.get l) ∧
      i = { j with lanes := i.lanes, scheduler := { j.scheduler with
        current := i.scheduler.current, sliceCount := i.scheduler.sliceCount, readyQueue := i.scheduler.readyQueue } }) :
    c.Truthful j (.ok false) i where
  refused := by
    intro e he
    cases he
  answered _ := ⟨false, rfl⟩
  changed := by
    intro hyes
    cases hyes
  unchanged _ := hkept
  reinforced l ev kind hr := ⟨rfl, hreinforced l ev kind hr⟩
  reset hc := ⟨rfl, hreset hc⟩

/-! ## Flags -/

theorem truthful_flag {was : Bool} (hsame : i = j ↔ was = true) (hreinforced : ∀ l ev kind, ¬ c.Reinforces j l ev kind)
    (hreset : c ≠ .setPolicy j.scheduler.policy) : c.Truthful j (.ok (!was)) i := by
  apply Truthful.of_iff _ hreinforced hreset
  rw [Ne, hsame]
  simp

theorem truthful_pause (j : Junction) : pause.Truthful j (.ok !j.paused) { j with paused := true } := by
  apply truthful_flag
  · constructor
    · intro h
      rw [← h]
    · intro h
      rw [← h]
  · rintro l ev kind ⟨⟨⟩⟩
  · nofun

theorem truthful_resume (j : Junction) : resume.Truthful j (.ok j.paused) { j with paused := false } := by
  rw [← Bool.not_not j.paused]
  apply truthful_flag
  · constructor
    · intro h
      rw [← h]
      rfl
    · intro h
      rw [Bool.not_eq_true'] at h
      rw [← h]
  · rintro l ev kind ⟨⟨⟩⟩
  · nofun

theorem truthful_shutdown (j : Junction) : shutdown.Truthful j (.ok !j.stopped) { j with stopped := true } := by
  apply truthful_flag
  · constructor
    · intro h
      rw [← h]
    · intro h
      rw [← h]
  · rintro l ev kind ⟨⟨⟩⟩
  · nofun

/-! ## Policies -/

theorem runOn_apply_setPolicy (p : Policy) (j : Junction) : (setPolicy p).apply.runOn j =
    (.ok (decide (j.scheduler.policy ≠ p)), { j with
      scheduler := { j.scheduler with policy := p, current := none, sliceCount := 0, readyQueue := [] }
      lanes := j.lanes.map Approach.stepAside }) := by
  rw [apply, runOn_bind_of_ok (runOn_get j), runOn_bind_of_ok (runOn_swapPolicy p j)]
  rfl

theorem truthful_setPolicy (p : Policy) (j : Junction) :
    (setPolicy p).Truthful j ((setPolicy p).apply.runOn j).1 ((setPolicy p).apply.runOn j).2 := by
  rw [runOn_apply_setPolicy]
  by_cases hp : j.scheduler.policy = p
  · subst hp
    have hno : decide (j.scheduler.policy ≠ j.scheduler.policy) = false := by simp
    rw [hno]
    apply Truthful.of_no
    · intro _ hrest
      exact (hrest rfl).reset_eq
    · rintro l ev kind ⟨⟨⟩⟩
    · intro _
      refine ⟨fun l hl => ?_, rfl⟩
      rw [PerLane.get_map, Approach.stepAside_of_ne hl]
  · have hyes : decide (j.scheduler.policy ≠ p) = true := by simpa using hp
    rw [hyes]
    apply Truthful.of_iff
    · constructor
      · intro _ h
        exact hp (congrArg (·.scheduler.policy) h).symm
      · intro _
        rfl
    · rintro l ev kind ⟨⟨⟩⟩
    · intro h
      cases h
      exact hp rfl

/-! ## Emergencies -/

theorem runOn_apply_triggerEmergency (l : Lane) (kind : EmergencyKind) (j : Junction) :
    (triggerEmergency l.index kind).apply.runOn j =
      (.ok (j.emergencies.trigger l kind j.scheduler.tick).1,
        { j with emergencies := (j.emergencies.trigger l kind j.scheduler.tick).2 }) := by
  rw [apply, Lane.ofIndex, Lane.ofIndex?_index]
  rfl

theorem Reinforces.of_slot {m : Lane} {k : EmergencyKind} {slot : Option EmergencyEvent}
    (h : (triggerEmergency l.index kind).Reinforces j m ev k) (hs : j.emergencies.slots.get l = slot) :
    m = l ∧ k = kind ∧ slot = some ev := by
  have hcommand := h.command
  injection hcommand with hindex hkind
  obtain rfl := Lane.index_inj hindex
  exact ⟨rfl, hkind.symm, hs.symm.trans h.pending⟩

theorem truthful_triggerEmergency (l : Lane) (kind : EmergencyKind) (j : Junction) :
    (triggerEmergency l.index kind).Truthful j ((triggerEmergency l.index kind).apply.runOn j).1
      ((triggerEmergency l.index kind).apply.runOn j).2 := by
  rw [runOn_apply_triggerEmergency]
  cases hs : j.emergencies.slots.get l with
  | none =>
    rw [Emergencies.trigger_of_none hs]
    apply Truthful.of_iff
    · constructor
      · intro _ h
        have hslot := congrArg (fun i : Junction => i.emergencies.slots.get l) h
        dsimp only at hslot
        rw [PerLane.get_set_self, hs] at hslot
        cases hslot
      · intro _
        rfl
    · intro m ev k hr
      obtain ⟨-, -, ⟨⟩⟩ := hr.of_slot hs
    · nofun
  | some ev =>
    by_cases hlt : ev.priority < kind.weight
    · rw [Emergencies.trigger_of_heavier hs hlt]
      apply Truthful.of_no
      · intro hnone _
        exact absurd ⟨rfl, hs, hlt⟩ (hnone l ev kind)
      · intro m ev' k hr
        obtain ⟨rfl, rfl, ⟨⟩⟩ := hr.of_slot hs
        rfl
      · nofun
    · rw [Emergencies.trigger_of_lighter hs hlt]
      apply Truthful.of_iff
      · constructor
        · nofun
        · intro h
          exact absurd rfl h
      · intro m ev' k hr
        obtain ⟨rfl, rfl, ⟨⟩⟩ := hr.of_slot hs
        exact hlt hr.lighter
      · nofun

theorem truthful_notLane (h : 4 ≤ lane) (kind : EmergencyKind) (j : Junction) :
    (triggerEmergency lane kind).Truthful j ((triggerEmergency lane kind).apply.runOn j).1
      ((triggerEmergency lane kind).apply.runOn j).2 := by
  have hrun : (triggerEmergency lane kind).apply.runOn j = (.error (.refused (.invalidLane lane)), j) := by
    rw [apply, Lane.ofIndex, Lane.ofIndex?_of_le h]
    rfl
  rw [hrun]
  constructor
  · intro e he
    cases he
    exact ⟨rfl, lane, kind, rfl, h, rfl⟩
  · intro hlane
    exact absurd (hlane lane kind rfl) (Nat.not_lt.2 h)
  · intro he
    cases he
  · intro he
    cases he
  · intro l ev k hr
    have hcommand := hr.command
    injection hcommand with hindex
    have hlt := l.index_lt
    omega
  · intro hc
    cases hc

/-! ## All commands -/

/-- **The answer of every command is truthful**, in every junction. -/
theorem truthful_apply (c : Command) (j : Junction) : c.Truthful j (c.apply.runOn j).1 (c.apply.runOn j).2 := by
  cases c with
  | pause => exact truthful_pause j
  | resume => exact truthful_resume j
  | shutdown => exact truthful_shutdown j
  | setPolicy p => exact truthful_setPolicy p j
  | triggerEmergency lane kind =>
    rcases Nat.lt_or_ge lane 4 with hlt | hle
    · obtain ⟨l, rfl⟩ := Lane.exists_index hlt
      exact truthful_triggerEmergency l kind j
    · exact truthful_notLane hle kind j

/-- An ambulance joins a police car in the south: the answer is that nothing changed, but what is pending there has
grown from the lightest to the heaviest. -/
theorem reinforced_unannounced :
    let j : Junction := (Blueprint.assemble { config := {} } {} 0).after [.command (.triggerEmergency 1 .police)]
    let i : Junction := ((triggerEmergency 1 .ambulance).apply.runOn j).2
    j.Reachable (fun _ => True) ∧ ((triggerEmergency 1 .ambulance).apply.runOn j).1 = .ok false ∧ i ≠ j ∧
      (j.emergencies.slots.get .south).map (·.priority) = some 1 ∧
        (i.emergencies.slots.get .south).map (·.priority) = some 3 := by
  have hbuilt : (Blueprint.assemble { config := {} } {} 0).Reachable (fun _ => True) :=
    .built (b := { config := {} }) rfl
  exact ⟨hbuilt.after _ fun _ _ => trivial, by decide +kernel, by decide +kernel, by decide +kernel,
    by decide +kernel⟩

end Command

end Crossroads
