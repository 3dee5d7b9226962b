import Crossroads.Proofs.Deadlock.Sweep
import Crossroads.Proofs.Quadrants.StuckSet
/-!
# A sweep restores safety

Where every lane that asks for quadrants is blocked, an unsafe state shows as a wait cycle: a stuck set has two holders,
and each of them is blocked on more than is free.  A sweep keeps what this needs and leaves no cycle, so it leaves a
safe state (`sweepDeadlocks_safe`).
-/
namespace Crossroads
namespace Junction

variable {j j' : Junction} {rs : List Resolution}

/-- The state in which the two algorithms agree: no lane asks for more than there is, and whoever asks is blocked. -/
structure Accounted (j : Junction) : Prop where
  held : j.allocator.allocation.sum ≤ j.allocator.total
  bounded : ∀ l, j.allocator.allocation.get l + j.allocator.request.get l ≤ j.allocator.total
  pending : ∀ l, 0 < j.allocator.request.get l → (j.lanes.get l).state = .blocked

/-- **An unsafe state has two stuck holders.** -/
theorem Accounted.exists_stuckHolders (h : j.Accounted) (hs : j.allocator.safe = false) :
    ∃ a b, a ≠ b ∧ j.StuckHolder a ∧ j.StuckHolder b := by
  obtain ⟨ls, s⟩ := exists_stuckSet h.held hs
  have hstuck : ∀ l ∈ ls, j.Stuck l := by
    intro l hl
    have hlt : j.allocator.available < j.allocator.request.get l := s.lt_need h.held hl
    exact ⟨h.pending l (Nat.lt_of_le_of_lt (Nat.zero_le _) hlt), hlt⟩
  obtain ⟨l, hl⟩ := List.exists_mem_of_ne_nil ls s.ne_nil
  obtain ⟨a, ha, -, ha0⟩ := s.exists_other_holder h.bounded hl
  obtain ⟨b, hb, hne, hb0⟩ := s.exists_other_holder h.bounded ha
  exact ⟨b, a, hne, ⟨hstuck b hb, hb0⟩, ⟨hstuck a ha, ha0⟩⟩

theorem Accounted.findCycle_ne_none (h : j.Accounted) (hs : j.allocator.safe = false) :
    j.waitForGraph.findCycle ≠ none := by
  obtain ⟨a, b, hne, ha, hb⟩ := h.exists_stuckHolders hs
  exact fun hc => hne (findCycle_eq_none_iff_stuckHolders.1 hc a b ha hb)

theorem Swept.total (w : j.Swept rs j') : j'.allocator.total = j.allocator.total :=
  congrArg (fun i => i.allocator.total) w.rest

theorem Swept.lane (w : j.Swept rs j') (l : Lane) :
    (j'.allocator.allocation.get l = 0 ∧ j'.allocator.request.get l = 0) ∨
      (j'.lanes.get l = j.lanes.get l ∧ j'.allocator.allocation.get l = j.allocator.allocation.get l ∧
        j'.allocator.request.get l = j.allocator.request.get l) := by
  by_cases hl : l ∈ rs.map (·.victim)
  · obtain ⟨r, hr, rfl⟩ := List.mem_map.1 hl
    exact .inl (w.waiting r hr).2
  · exact .inr (w.others l hl)

theorem Accounted.swept (h : j.Accounted) (w : j.Swept rs j')
    (hsum : j'.allocator.allocation.sum ≤ j'.allocator.total) : j'.Accounted where
  held := hsum
  bounded l := by
    rw [w.total]
    rcases w.lane l with ⟨ha, hr⟩ | ⟨-, ha, hr⟩
    · rw [ha, hr]
      exact Nat.zero_le _
    · rw [ha, hr]
      exact h.bounded l
  pending l hl := by
    rcases w.lane l with ⟨-, hr⟩ | ⟨hlane, -, hr⟩
    · rw [hr] at hl
      exact absurd hl (Nat.lt_irrefl 0)
    · rw [hr] at hl
      rw [hlane]
      exact h.pending l hl

/-- **Where whoever asks is blocked, an unsafe state shows as a wait cycle and a sweep restores safety.** -/
theorem sweepDeadlocks_safe (j : Junction) (held : j.allocator.allocation.sum ≤ j.allocator.total)
    (bounded : ∀ l, j.allocator.allocation.get l + j.allocator.request.get l ≤ j.allocator.total)
    (pending : ∀ l, 0 < j.allocator.request.get l → (j.lanes.get l).state = .blocked) :
    (j.allocator.safe = false → ∃ c, j.waitForGraph.findCycle = some c ∧ j.waitForGraph.IsCycle c) ∧
      ∃ rs j', sweepDeadlocks.runOn j = (.ok rs, j') ∧ j'.allocator.safe = true ∧
        ∀ l, 0 < j'.allocator.request.get l → (j'.lanes.get l).state = .blocked := by
  have h : j.Accounted := ⟨held, bounded, pending⟩
  constructor
  · intro hs
    obtain ⟨c, hc⟩ := Option.ne_none_iff_exists'.1 (h.findCycle_ne_none hs)
    exact ⟨c, hc, WaitForGraph.findCycle_isCycle hc⟩
  · obtain ⟨rs, j', hrun, hrs⟩ := exists_rounds_sweepDeadlocks j
    have hsum := hrs.sum_allocation
    have htotal := (hrs.swept held).total
    have h' : j'.Accounted := h.swept (hrs.swept held) (by omega)
    refine ⟨rs, j', hrun, ?_, h'.pending⟩
    cases hs : j'.allocator.safe with
    | true => rfl
    | false => exact absurd hrs.acyclic (h'.findCycle_ne_none hs)

theorem sweepDeadlocks_safe_standoff :
    (standoff .smallestAllocation).allocator.safe = false ∧
      (∃ c, (standoff .smallestAllocation).waitForGraph.findCycle = some c ∧
        (standoff .smallestAllocation).waitForGraph.IsCycle c) ∧
      ∃ rs j', sweepDeadlocks.runOn (standoff .smallestAllocation) = (.ok rs, j') ∧ j'.allocator.safe = true ∧
        ∀ l, 0 < j'.allocator.request.get l → (j'.lanes.get l).state = .blocked := by
  have hstuck : (standoff .smallestAllocation).allocator.safe = false := by decide
  obtain ⟨hcycle, hsafe⟩ := sweepDeadlocks_safe (standoff .smallestAllocation) (by decide)
    (by intro l; cases l <;> decide) (by intro l; cases l <;> decide)
  exact ⟨hstuck, hcycle hstuck, hsafe⟩

end Junction
end Crossroads
