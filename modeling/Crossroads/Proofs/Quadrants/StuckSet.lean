import Crossroads.Quadrants
/-!
# Stuck sets

A failed safety check leaves a certificate: lanes none of which can finish even when all the others have given back
what they hold (`exists_stuckSet`).  If no lane asks for more than there is on top of what it holds, every lane of a
stuck set faces another one of it that holds something (`StuckSet.exists_other_holder`), so a stuck set has two holders.
-/
namespace Crossroads

namespace PerLane

/-- The sum of the entries of some lanes. -/
def sumOver (p : PerLane Nat) : List Lane → Nat
  | []      => 0
  | l :: ls => p.get l + p.sumOver ls

theorem sum_eq (p : PerLane Nat) : p.sum = p.sumOver Lane.all := by
  simp only [sum, Lane.all, sumOver, get]
  omega

theorem sumOver_erase (p : PerLane Nat) {l : Lane} : ∀ {ls : List Lane}, l ∈ ls →
    p.get l + p.sumOver (ls.erase l) = p.sumOver ls
  | m :: ls, h => by
    by_cases e : m = l
    · rw [e, List.erase_cons_head, sumOver]
    · have hl : l ∈ ls := (List.mem_cons.1 h).resolve_left (Ne.symm e)
      have ih := p.sumOver_erase hl
      rw [List.erase_cons_tail (by rwa [beq_iff_eq]), sumOver, sumOver]
      omega

theorem sumOver_le_of_sublist (p : PerLane Nat) {ks ls : List Lane} (h : ks.Sublist ls) :
    p.sumOver ks ≤ p.sumOver ls := by
  induction h with
  | slnil => exact Nat.le_refl _
  | cons l _ ih => exact Nat.le_trans ih (Nat.le_add_left _ _)
  | cons_cons l _ ih => exact Nat.add_le_add_left ih _

theorem exists_pos_of_sumOver_pos (p : PerLane Nat) : ∀ {ls : List Lane}, 0 < p.sumOver ls → ∃ l ∈ ls, 0 < p.get l
  | l :: ls, h => by
    by_cases hl : 0 < p.get l
    · exact ⟨l, List.mem_cons_self, hl⟩
    · rw [sumOver, Nat.eq_zero_of_not_pos hl, Nat.zero_add] at h
      obtain ⟨m, hm, hpos⟩ := p.exists_pos_of_sumOver_pos h
      exact ⟨m, List.mem_cons_of_mem _ hm, hpos⟩

end PerLane

/-- Lanes each of which needs more than is free when all the other lanes have finished. -/
structure StuckSet (total : Nat) (allocation need : PerLane Nat) (ls : List Lane) : Prop where
  ne_nil : ls ≠ []
  sub : ls.Sublist Lane.all
  short : ∀ l ∈ ls, total < need.get l + allocation.sumOver ls

variable {total : Nat} {allocation need : PerLane Nat}

/-- **A greedy sweep that gets stuck leaves a stuck set**: what is free and what the unfinished lanes hold is always
the total. -/
theorem exists_stuckSet_of_finishAll : ∀ (rounds : Nat) {unfinished : List Lane} {free : Nat},
    unfinished.length ≤ rounds → unfinished.Sublist Lane.all → free + allocation.sumOver unfinished = total →
      finishAll allocation need rounds unfinished free = false → ∃ ls, StuckSet total allocation need ls
  | 0, unfinished, free, hlen, _, _, h => by
    have hnil : unfinished = [] := List.eq_nil_of_length_eq_zero (Nat.le_zero.1 hlen)
    rw [hnil] at h
    cases h
  | rounds + 1, unfinished, free, hlen, hsub, hsum, h => by
    rw [finishAll] at h
    cases hf : unfinished.find? (fun l => need.get l ≤ free) with
    | none =>
      rw [hf] at h
      refine ⟨unfinished, ⟨fun hnil => ?_, hsub, fun l hl => ?_⟩⟩
      · rw [hnil] at h
        cases h
      · have hl := List.find?_eq_none.1 hf l hl
        simp only [decide_eq_true_eq] at hl
        omega
    | some l =>
      rw [hf] at h
      have hl := List.mem_of_find?_eq_some hf
      have hlen' := List.length_erase_of_mem hl
      have hpos := List.length_pos_of_mem hl
      have hsum' := allocation.sumOver_erase hl
      exact exists_stuckSet_of_finishAll rounds (by omega) (List.erase_sublist.trans hsub) (by omega) h

/-- **A state that is not safe has a stuck set.** -/
theorem exists_stuckSet (held : allocation.sum ≤ total) (h : isSafe total allocation need = false) :
    ∃ ls, StuckSet total allocation need ls := by
  have hf : finishAll allocation need 4 Lane.all (total - allocation.sum) = false := by
    simpa [isSafe, held] using h
  refine exists_stuckSet_of_finishAll 4 (by decide) (List.Sublist.refl _) ?_ hf
  rw [← PerLane.sum_eq]
  omega

namespace StuckSet

variable {ls : List Lane}

theorem nodup (s : StuckSet total allocation need ls) : ls.Nodup := s.sub.nodup (by decide)

theorem lt_need (s : StuckSet total allocation need ls) (held : allocation.sum ≤ total) {l : Lane} (hl : l ∈ ls) :
    total - allocation.sum < need.get l := by
  have hshort := s.short l hl
  have hle := allocation.sumOver_le_of_sublist s.sub
  rw [← PerLane.sum_eq] at hle
  omega

/-- **Every lane of a stuck set faces another one that holds something.** -/
theorem exists_other_holder (s : StuckSet total allocation need ls)
    (bounded : ∀ l, allocation.get l + need.get l ≤ total) {l : Lane} (hl : l ∈ ls) :
    ∃ m ∈ ls, m ≠ l ∧ 0 < allocation.get m := by
  have hshort := s.short l hl
  have hbound := bounded l
  have herase := allocation.sumOver_erase hl
  have hpos : 0 < allocation.sumOver (ls.erase l) := by omega
  obtain ⟨m, hm, hm0⟩ := allocation.exists_pos_of_sumOver_pos hpos
  exact ⟨m, List.mem_of_mem_erase hm, fun e => by rw [e] at hm; exact s.nodup.not_mem_erase hm, hm0⟩

end StuckSet
end Crossroads
