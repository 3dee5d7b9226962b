import Crossroads.Proofs.Exclusion.Operations
/-!
# Mutual exclusion in runs

A thread that is alone at the junction carries out its routines without interruption, so what is safe among others is
safe for it: every operation leaves a linked junction in which at most one lane runs.
-/
namespace Crossroads

open Act Junction

namespace Routine

variable {α : Type} {Q : α → HeldLayers → Junction → Prop}

/-- What a safe routine comes to when it is carried out alone. -/
def Comes (Q : α → HeldLayers → Junction → Prop) : Except Fault (α × HeldLayers) × Junction → Prop
  | (.ok x, i) => i.Exclusive ∧ (.scheduler ∉ x.2 → i.Linked) ∧ Q x.1 x.2 i
  | (.error f, i) => i.Exclusive ∧ i.Linked ∧ f.isBreach = false

/-- **A safe routine may be carried out alone.** -/
theorem Safe.run : ∀ {r : Routine α} {held : HeldLayers} {j : Junction}, r.Safe Q held j → j.Exclusive →
    (.scheduler ∉ held → j.Linked) → Comes Q ((r.run held).runOn j)
  | done a, held, j, h, he, hl => ⟨he, hl, h⟩
  | perform act next, held, j, h, he, hl => by
    show Comes Q ((act >>= fun b => (next b).run held).runOn j)
    by_cases hs : .scheduler ∈ held
    · obtain ⟨b, i, hrun, hex, hnext⟩ := h.2 hs j (.refl j) he
      rw [runOn_bind_of_ok hrun]
      exact hnext.run hex fun hs' => absurd hs hs'
    · have hy := h.1 hs
      have hyields := hy.yields j
      rcases hrun : act.runOn j with ⟨f | b, i⟩
      · rw [hrun] at hyields
        rw [runOn_bind_of_error hrun]
        exact ⟨he.yields hyields, (hl hs).yields hyields, hy.fault (by rw [hrun])⟩
      · rw [hrun] at hyields
        rw [runOn_bind_of_ok hrun]
        exact (hy.answer (by rw [hrun]) i).run (he.yields hyields) fun _ => (hl hs).yields hyields
  | ask lock next, held, j, h, he, hl => by
    show Comes Q ((checkLayer held lock.layer >>= fun _ => next.run held).runOn j)
    rw [checkLayer_eq_pure h.1, pure_bind]
    exact h.2.run he hl
  | take lock next, held, j, h, he, hl => by
    show Comes Q ((next.run (held.acquire lock.layer)).runOn j)
    by_cases hs : lock = .scheduler
    · obtain ⟨hfree, hnext⟩ := h.2 hs
      exact (hnext j (hl hfree)).run he fun _ => hl hfree
    · exact (h.1 hs).run he fun hm => hl fun hm' => hm ((mem_acquire hs).2 hm')
  | drop lock next, held, j, h, he, hl => by
    show Comes Q ((next.run (held.letGo lock.layer)).runOn j)
    by_cases hs : lock = .scheduler
    · exact h.2.run he fun _ => (h.1 hs).2
    · exact h.2.run he fun hm => hl fun hm' => hm ((mem_letGo hs).2 hm')

end Routine

variable {op : Operation} {j : Junction}

theorem runOn_checkMutualExclusion (h : j.Exclusive) : checkMutualExclusion.runOn j = (.ok (), j) := by
  unfold checkMutualExclusion
  rw [runOn_bind_of_ok (runOn_get j)]
  dsimp only
  rw [if_neg (Nat.not_lt.2 h.length_runningLanes)]
  rfl

/-- **What an operation does to a junction in order.** -/
theorem Operation.keepsOrder (hset : ∀ l s, op ≠ .setState l s) (he : j.Exclusive) (hl : j.Linked) :
    (op.next j).Exclusive ∧ (op.next j).Linked ∧ ∀ f, (op.runOn j).1 = .error f → f.isBreach = false := by
  by_cases hc : op = .checkExclusion
  · have hrun : op.runOn j = (.ok .done, j) := by
      rw [hc]
      exact runOn_bind_of_ok (runOn_checkMutualExclusion he)
    rw [Operation.next, hrun]
    exact ⟨he, hl, nofun⟩
  · have h := (routine_free ⟨hset, hc⟩ j trivial).run he fun _ => hl
    rw [routine_does op] at h
    unfold Operation.next Operation.runOn
    rcases hrun : op.perform.runOn j with ⟨f | x, i⟩
    · rw [runOn_bind_of_error hrun] at h
      exact ⟨h.1, h.2.1, fun g hg => Except.error.inj hg ▸ h.2.2⟩
    · rw [runOn_bind_of_ok hrun] at h
      exact ⟨h.1, h.2.1 List.not_mem_nil, nofun⟩

theorem Junction.Reachable.inOrder (h : j.Reachable (fun op => ∀ l s, op ≠ .setState l s)) :
    j.Exclusive ∧ j.Linked := by
  induction h with
  | built hb => exact ⟨Blueprint.exclusive_build hb, Blueprint.linked_build hb⟩
  | next _ hset ih =>
    obtain ⟨he, hl, -⟩ := Operation.keepsOrder hset ih.1 ih.2
    exact ⟨he, hl⟩

/-- **Mutual exclusion in runs.** Unless a lane's state is set by hand, at most one lane ever runs, the lane that runs
is the scheduler's current one, no violation is counted, and no operation fails with a broken invariant or a rejected
change of a lane's state. -/
theorem Junction.mutualExclusion_reachable (h : j.Reachable (fun op => ∀ l s, op ≠ .setState l s)) :
    j.runningLanes.length ≤ 1 ∧ (∀ r, j.Runs r → j.scheduler.current = some r) ∧ j.monitor.count = 0 ∧
      ∀ op : Operation, (∀ l s, op ≠ .setState l s) → ∀ f, (op.runOn j).1 = .error f → f.isBreach = false := by
  obtain ⟨he, hl⟩ := h.inOrder
  refine ⟨he.length_runningLanes, hl, he.count, fun op hset => ?_⟩
  obtain ⟨-, -, hf⟩ := Operation.keepsOrder hset he hl
  exact hf

/-- A vehicle comes up to the north, and a pass gives the crossing to its lane. -/
theorem Junction.mutualExclusion_reachable_north : ∃ j : Junction, j.Runs .north ∧ j.scheduler.current = some .north ∧
    j.runningLanes.length ≤ 1 ∧ j.monitor.count = 0 := by
  let j₀ : Junction := Blueprint.assemble { config := {} } {} 0
  let j₁ : Junction := Operation.next j₀ (.enqueueNow .north 1)
  have hbuilt : j₀.Reachable (fun op => ∀ l s, op ≠ .setState l s) := .built (b := { config := {} }) rfl
  have harrived : Reachable _ j₁ := hbuilt.next fun _ _ => nofun
  have hserved : Reachable _ (Operation.next j₁ .schedule) := harrived.next fun _ _ => nofun
  have hruns : (Operation.next j₁ .schedule).Runs .north := by decide +kernel
  obtain ⟨hone, hlink, hcount, -⟩ := mutualExclusion_reachable hserved
  exact ⟨_, hruns, hlink _ hruns, hone, hcount⟩

end Crossroads
