import Crossroads.Proofs.Steps.HandsOff
/-!
# Service times stay behind the clock

While no stop is requested and the clock does not go back, a batch takes its time to cross, so the moment at which a
lane was last served lies behind the clock (`Junction.Punctual`).  A lane that is served now is therefore served later
than every other one was.
-/
namespace Crossroads

open Junction

variable {i j : Junction} {l m : Lane} {a b : Approach} {op : Operation} {now : Nat}

/-! ## Runs of operations -/

/-- Every operation of a run meets a junction that allows it. -/
def Junction.Along (allowed : Junction → Operation → Prop) : Junction → List Operation → Prop
  | _, [] => True
  | j, op :: ops => allowed j op ∧ Along allowed (op.next j) ops

/-- What is done with a junction while nobody else asks for quadrants, no stop is requested, and the clock does not go
back. -/
def Operation.Onward (j : Junction) : Operation → Prop
  | .requestStop | .command .shutdown => False
  | .setClock ms => j.clock ≤ ms
  | op => op.HandsOff

theorem Operation.Onward.handsOff (h : op.Onward j) : op.HandsOff := by
  cases op with
  | requestStop => exact h.elim
  | setClock ms => trivial
  | command c => trivial
  | _ => exact h

/-! ## Lanes -/

namespace Approach

/-- A lane that was not served meanwhile, with the priority that it had. -/
structure Unserved (a b : Approach) : Prop where
  lastServiceMs : b.lastServiceMs = a.lastServiceMs
  priority : b.priority = a.priority

theorem Unserved.refl (a : Approach) : a.Unserved a := ⟨rfl, rfl⟩

theorem unserved_stepAside (a : Approach) : a.Unserved a.stepAside := by
  unfold stepAside
  split <;> exact ⟨rfl, rfl⟩

theorem unserved_aged (a : Approach) : a.Unserved a.aged := by
  unfold aged
  split <;> exact ⟨rfl, rfl⟩

theorem unserved_letIn (a : Approach) (v : Vehicle) : a.Unserved (a.letIn v) := ⟨rfl, rfl⟩

end Approach

namespace Junction

/-! ## The invariant -/

/-- An undisturbed junction in which no stop was requested, every lane was last served in the past, and no lane is more
urgent than another. -/
structure Punctual (j : Junction) : Prop extends j.Undisturbed where
  going : j.stopped = false
  crossing : 1 ≤ j.settings.crossTimeMs
  past : ∀ l s, (j.lanes.get l).lastServiceMs = some s → s < j.clock
  level : ∀ l m, (j.lanes.get l).priority = (j.lanes.get m).priority

theorem Punctual.built {b : Blueprint} (hb : b.build now = .ok j)
    (hlevel : ∀ l m, b.priorities.get l = b.priorities.get m) (hcross : 1 ≤ b.config.crossTimeMs) : j.Punctual where
  toUndisturbed := .built hb
  going := by
    rw [Blueprint.eq_assemble hb]
    rfl
  crossing := by
    rw [Blueprint.eq_assemble hb]
    exact hcross
  past l s hs := by
    rw [Blueprint.eq_assemble hb, Blueprint.assemble, PerLane.get_ofFn] at hs
    cases hs
  level l m := by
    rw [Blueprint.eq_assemble hb, Blueprint.assemble, PerLane.get_ofFn, PerLane.get_ofFn]
    exact hlevel l m

/-- What serves no lane and does not turn the clock back keeps the invariant. -/
theorem Punctual.unserved (h : j.Punctual) (hi : i.Undisturbed) (hstop : i.stopped = j.stopped)
    (hset : i.settings = j.settings) (hclock : j.clock ≤ i.clock)
    (hlanes : ∀ l, (j.lanes.get l).Unserved (i.lanes.get l)) : i.Punctual where
  toUndisturbed := hi
  going := hstop.trans h.going
  crossing := hset ▸ h.crossing
  past l s hs := Nat.lt_of_lt_of_le (h.past l s ((hlanes l).lastServiceMs.symm.trans hs)) hclock
  level l m := (hlanes l).priority.trans ((h.level l m).trans (hlanes m).priority.symm)

/-! ### Steps -/

theorem stepped_settings (j : Junction) : j.stepped.settings = j.settings := by
  unfold stepped
  cases j.decision.lane <;> rfl

theorem stepped_stopped (j : Junction) : j.stepped.stopped = j.stopped := by
  unfold stepped
  cases j.decision.lane <;> rfl

theorem clock_le_readied (j : Junction) : j.clock ≤ j.readied.clock := Nat.le_add_right _ _

theorem readied_clock_le_stepped (j : Junction) : j.readied.clock ≤ j.stepped.clock := by
  unfold stepped
  cases j.decision.lane with
  | none => exact Nat.le_refl _
  | some l => exact Nat.le_add_right _ _

/-- The lane of the decision was served when the pass was over, if anyone crossed. -/
theorem stepped_lastServiceMs (hd : j.decision.lane = some l) : (j.stepped.lanes.get l).lastServiceMs =
    if 0 < j.batch l then some j.readied.clock else (j.lanes.get l).lastServiceMs := by
  rw [stepped_get_self hd]
  exact Approach.crossed_lastServiceMs _ _ _

theorem stepped_priority (hd : j.decision.lane = some l) :
    (j.stepped.lanes.get l).priority = (j.lanes.get l).priority := by
  rw [stepped_get_self hd]
  exact Approach.crossed_priority _ _ _

theorem stepped_unserved (hm : j.decision.lane ≠ some m) : (j.lanes.get m).Unserved (j.stepped.lanes.get m) := by
  cases hd : j.decision.lane with
  | none =>
    rw [stepped_get_of_idle hd]
    exact .refl _
  | some l =>
    rw [stepped_get_of_ne hd fun e => hm (hd.trans (congrArg some e.symm))]
    exact (j.lanes.get m).unserved_stepAside

theorem Punctual.clock_lt_stepped (h : j.Punctual) (hd : j.decision.lane = some l) (hb : 0 < j.batch l) :
    j.readied.clock < j.stepped.clock := by
  have hcross : j.readied.crossingMs (j.readied.batch l) = j.settings.crossTimeMs := by
    rw [batch_readied hd]
    exact if_pos ⟨hb, h.going⟩
  have hpos := h.crossing
  rw [stepped_of_lane hd]
  show j.readied.clock < j.readied.clock + j.readied.crossingMs (j.readied.batch l)
  omega

theorem Punctual.stepped (h : j.Punctual) (hs : j.stepped.Undisturbed) : j.stepped.Punctual where
  toUndisturbed := hs
  going := j.stepped_stopped.trans h.going
  crossing := j.stepped_settings ▸ h.crossing
  past l s hsome := by
    have hclock := Nat.le_trans j.clock_le_readied j.readied_clock_le_stepped
    by_cases hd : j.decision.lane = some l
    · rw [stepped_lastServiceMs hd] at hsome
      split at hsome
      · rename_i hb
        cases hsome
        exact h.clock_lt_stepped hd hb
      · exact Nat.lt_of_lt_of_le (h.past l s hsome) hclock
    · rw [(stepped_unserved hd).lastServiceMs] at hsome
      exact Nat.lt_of_lt_of_le (h.past l s hsome) hclock
  level l m := by
    have hsame : ∀ p, (j.stepped.lanes.get p).priority = (j.lanes.get p).priority := fun p => by
      by_cases hd : j.decision.lane = some p
      · exact stepped_priority hd
      · exact (stepped_unserved hd).priority
    rw [hsame, hsame]
    exact h.level l m

/-! ### Other operations -/

theorem Punctual.next_setPolicy (h : j.Punctual) (p : Policy) : (Operation.next j (.setPolicy p)).Punctual := by
  have hi := h.toUndisturbed.next_setPolicy p
  rw [Operation.next_setPolicy] at hi ⊢
  refine h.unserved hi rfl rfl (Nat.le_refl _) fun l => ?_
  rw [PerLane.get_map]
  exact (j.lanes.get l).unserved_stepAside

/-- **Onward operations keep the invariant.** -/
theorem Punctual.next (h : j.Punctual) (hop : op.Onward j) : (op.next j).Punctual := by
  have hi := h.toUndisturbed.next hop.handsOff
  have hsame : ∀ l, (j.lanes.get l).Unserved (j.lanes.get l) := fun l => .refl _
  cases op with
  | step =>
    cases hp : j.paused with
    | true =>
      rw [next_step_of_paused hp]
      exact h
    | false =>
      rw [h.next_step_eq hp] at hi ⊢
      exact h.stepped hi
  | advance ms => exact h.unserved hi rfl rfl (Nat.le_add_right _ _) hsame
  | setClock ms => exact h.unserved hi rfl rfl hop hsame
  | sleep ms =>
    rw [Operation.next_sleep, if_neg (Bool.eq_false_iff.1 h.going)] at hi ⊢
    exact h.unserved hi rfl rfl (Nat.le_add_right _ _) hsame
  | tickLane l =>
    rw [Operation.next_tickLane (h.settled l)] at hi ⊢
    exact h.unserved hi rfl rfl (Nat.le_refl _) (PerLane.rel_set .refl _ (Approach.unserved_aged _))
  | setPolicy p => exact h.next_setPolicy p
  | arrive l kind =>
    rcases Nat.lt_or_ge (j.lanes.get l).queue.length (j.lanes.get l).queue.capacity with hroom | hfull
    · rw [Operation.next_arrive_ok hroom] at hi ⊢
      exact h.unserved hi rfl rfl (Nat.le_refl _) (PerLane.rel_set .refl _ (Approach.unserved_letIn _ _))
    · rw [Operation.next_arrive_error hfull] at hi ⊢
      exact h.unserved hi rfl rfl (Nat.le_refl _) hsame
  | pause | resume | emergency => exact h.unserved hi rfl rfl (Nat.le_refl _) hsame
  | sweep =>
    rw [h.next_sweep_eq]
    exact h
  | revalidate =>
    rw [h.next_revalidate_eq]
    exact h
  | command c =>
    cases c with
    | pause | resume => exact h.unserved hi rfl rfl (Nat.le_refl _) hsame
    | setPolicy p =>
      rw [Operation.next_command_setPolicy]
      exact h.next_setPolicy p
    | triggerEmergency lane kind =>
      rw [Operation.next_command_triggerEmergency] at hi ⊢
      cases hlane : Lane.ofIndex? lane with
      | none => exact h
      | some l =>
        rw [hlane] at hi
        exact h.unserved hi rfl rfl (Nat.le_refl _) hsame
    | shutdown => exact hop.elim
  | _ => exact hop.elim

theorem Punctual.after : ∀ (ops : List Operation) {j : Junction}, j.Punctual → j.Along Operation.Onward ops →
    (j.after ops).Punctual
  | [], _, h, _ => h
  | _ :: ops, _, h, hops => Punctual.after ops (h.next hops.1) hops.2

end Junction
end Crossroads
