import Crossroads.Quadrants
/-!
# Completion orders

The greedy sweep over the lanes finishes exactly when there is an order in which all of them can finish
(`finishAll_eq_true_iff`): whoever can finish now may go first, because giving back what it holds hurts nobody
(`Finishes.erase`).
-/
namespace Crossroads

variable {total free : Nat} {allocation need : PerLane Nat}

/-- **A lane that finishes first hurts nobody.**  Whatever its place in the order, the others finish without it once
they have what it holds. -/
theorem Finishes.erase {l : Lane} : ∀ {order : List Lane} {free : Nat}, Finishes allocation need free order →
    l ∈ order → Finishes allocation need (free + allocation.get l) (order.erase l)
  | m :: order, free, h, hl => by
    obtain ⟨hm, hrest⟩ := h
    by_cases hml : m = l
    · subst hml
      rw [List.erase_cons_head]
      exact hrest
    · have hl' : l ∈ order := (List.mem_cons.1 hl).resolve_left (Ne.symm hml)
      have ih := Finishes.erase hrest hl'
      rw [List.erase_cons_tail (by simpa using hml)]
      refine ⟨Nat.le_add_right_of_le hm, ?_⟩
      rw [Nat.add_right_comm]
      exact ih

theorem exists_order_of_finishAll : ∀ (rounds : Nat) {unfinished : List Lane} {free : Nat},
    finishAll allocation need rounds unfinished free = true →
      ∃ order, order.Perm unfinished ∧ Finishes allocation need free order
  | 0, unfinished, free, h => by
    have hnil : unfinished = [] := List.isEmpty_iff.1 h
    exact ⟨[], by rw [hnil], trivial⟩
  | rounds + 1, unfinished, free, h => by
    rw [finishAll] at h
    cases hf : unfinished.find? (fun l => need.get l ≤ free) with
    | none =>
      rw [hf] at h
      have hnil : unfinished = [] := List.isEmpty_iff.1 h
      exact ⟨[], by rw [hnil], trivial⟩
    | some l =>
      rw [hf] at h
      have hl : l ∈ unfinished := List.mem_of_find?_eq_some hf
      have hfits : need.get l ≤ free := by simpa using List.find?_some hf
      obtain ⟨order, hperm, hfin⟩ := exists_order_of_finishAll rounds h
      exact ⟨l :: order, (hperm.cons l).trans (List.perm_cons_erase hl).symm, hfits, hfin⟩

theorem finishAll_of_order : ∀ (rounds : Nat) {unfinished order : List Lane} {free : Nat},
    unfinished.length ≤ rounds → order.Perm unfinished → Finishes allocation need free order →
      finishAll allocation need rounds unfinished free = true
  | 0, unfinished, order, free, hlen, _, _ => by
    have hnil : unfinished = [] := List.eq_nil_of_length_eq_zero (Nat.le_zero.1 hlen)
    rw [hnil]
    rfl
  | rounds + 1, unfinished, order, free, hlen, hperm, hfin => by
    rw [finishAll]
    cases hf : unfinished.find? (fun l => need.get l ≤ free) with
    | none =>
      -- the head of the order could finish, so nobody is left
      cases order with
      | nil => rw [List.nil_perm.1 hperm]; rfl
      | cons m order =>
        have hm : m ∈ unfinished := hperm.subset List.mem_cons_self
        have hno := List.find?_eq_none.1 hf m hm
        exact absurd hfin.1 (by simpa using hno)
    | some l =>
      have hl : l ∈ unfinished := List.mem_of_find?_eq_some hf
      have hlen' := List.length_erase_of_mem hl
      have hpos := List.length_pos_of_mem hl
      have hrest := hfin.erase (hperm.symm.subset hl)
      exact finishAll_of_order rounds (by omega) (hperm.erase l) hrest

/-- **The greedy sweep is exact.** -/
theorem finishAll_eq_true_iff :
    finishAll allocation need 4 Lane.all free = true ↔
      ∃ order, order.Perm Lane.all ∧ Finishes allocation need free order := by
  constructor
  · exact exists_order_of_finishAll 4
  · rintro ⟨order, hperm, hfin⟩
    exact finishAll_of_order 4 (by decide) hperm hfin

theorem isSafe_eq_true_iff :
    isSafe total allocation need = true ↔ ∃ order, IsCompletionOrder total allocation need order := by
  unfold isSafe IsCompletionOrder
  rw [Bool.and_eq_true, decide_eq_true_iff, finishAll_eq_true_iff]
  constructor
  · rintro ⟨hsum, order, hperm, hfin⟩
    exact ⟨order, hperm, hsum, hfin⟩
  · rintro ⟨order, hperm, hsum, hfin⟩
    exact ⟨hsum, order, hperm, hfin⟩

end Crossroads
