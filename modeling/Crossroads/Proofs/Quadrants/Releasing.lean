import Crossroads.Proofs.Quadrants.Requests
/-!
# Releasing

Giving quadrants back hurts nobody.  A lane that holds and wants nothing may go first in an order, and the others go on
without it as they would have after it (`IsCompletionOrder.release`).  So a safe state stays safe, and since a release
and a grant to another lane may trade places (`Allocator.grant_release`), what was granted before is granted after
(`Allocator.release_monotone`).
-/
namespace Crossroads

variable {total n free : Nat} {allocation need : PerLane Nat} {i j l : Lane}

theorem PerLane.set_comm {α : Type} (p : PerLane α) {l m : Lane} (h : l ≠ m) (a b : α) :
    (p.set l a).set m b = (p.set m b).set l a := by
  cases l <;> cases m <;> first | exact absurd rfl h | rfl

theorem Finishes.congr {allocation' need' : PerLane Nat} : ∀ {order : List Lane} {free : Nat},
    (∀ l ∈ order, allocation.get l = allocation'.get l ∧ need.get l = need'.get l) →
      Finishes allocation need free order → Finishes allocation' need' free order
  | [], _, _, _ => trivial
  | l :: order, free, h, ⟨hl, hrest⟩ => by
    obtain ⟨hallocation, hneed⟩ := h l List.mem_cons_self
    refine ⟨hneed ▸ hl, ?_⟩
    rw [← hallocation]
    exact hrest.congr fun m hm => h m (List.mem_cons_of_mem _ hm)

/-- **A lane that has been released goes first**, and the others keep their order. -/
theorem IsCompletionOrder.release {order : List Lane} (h : IsCompletionOrder total allocation need order) (l : Lane) :
    IsCompletionOrder total (allocation.set l 0) (need.set l 0) (l :: order.erase l) := by
  obtain ⟨hperm, hsum, hfin⟩ := h
  have hl : l ∈ order := hperm.mem_iff.2 l.mem_all
  have hnodup : order.Nodup := hperm.nodup_iff.2 (by decide)
  have hset := allocation.sum_set l 0
  refine ⟨(List.perm_cons_erase hl).symm.trans hperm, by omega, ?_, ?_⟩
  · rw [PerLane.get_set_self]
    exact Nat.zero_le _
  · -- what the lane held is free at once, and nothing more when it finishes
    have hfree : total - (allocation.set l 0).sum + (allocation.set l 0).get l =
        total - allocation.sum + allocation.get l := by
      rw [PerLane.get_set_self]
      omega
    rw [hfree]
    refine (hfin.erase hl).congr fun m hm => ?_
    have hne : m ≠ l := fun e => hnodup.not_mem_erase (e ▸ hm)
    exact ⟨(PerLane.get_set_of_ne _ _ hne).symm, (PerLane.get_set_of_ne _ _ hne).symm⟩

namespace Allocator

variable {a : Allocator}

theorem safe_release (h : a.safe = true) (l : Lane) : (a.release l).2.safe = true := by
  obtain ⟨order, horder⟩ := isSafe_eq_true_iff.1 h
  exact isSafe_eq_true_iff.2 ⟨_, horder.release l⟩

theorem grant_release (hij : i ≠ j) : (a.release i).2.grant j n = ((a.grant j n).release i).2 := by
  have hallocation : (a.allocation.set i 0).modify j (· + n) = (a.allocation.modify j (· + n)).set i 0 := by
    rw [PerLane.modify, PerLane.modify, PerLane.get_set_of_ne _ _ (Ne.symm hij), PerLane.set_comm _ hij]
  have hrequest : (a.request.set i 0).set j 0 = (a.request.set j 0).set i 0 := PerLane.set_comm _ hij 0 0
  simp only [grant, release, hallocation, hrequest]

theorem available_release (h : a.allocation.sum ≤ a.total) (i : Lane) :
    (a.release i).2.available = a.available + (a.release i).1 := by
  have hset := a.allocation.sum_set i 0
  show a.total - (a.allocation.set i 0).sum = a.total - a.allocation.sum + a.allocation.get i
  omega

theorem Grantable.release (g : a.Grantable j n) (hij : i ≠ j) : (a.release i).2.Grantable j n where
  pos := g.pos
  fits := by
    rw [release_allocation, if_neg (Ne.symm hij)]
    exact g.fits
  free := by
    have hfree := g.free
    have hset := a.allocation.sum_set i 0
    show n ≤ a.total - (a.allocation.set i 0).sum
    rw [available] at hfree
    omega
  finishes := by
    rw [← safe_grant_iff, grant_release hij]
    exact safe_release (safe_grant_iff.2 g.finishes) i

theorem requestQuadrants_release (hij : i ≠ j) (h : (a.requestQuadrants j n).1 = .ok free) :
    ((a.release i).2.requestQuadrants j n).1 = .ok (free + (a.release i).1) := by
  obtain ⟨g, -, rfl⟩ := granted_of_ok h
  have hheld : ((a.grant j n).release i).1 = (a.release i).1 := PerLane.get_set_of_ne _ _ hij
  rw [ok_of_grantable (g.release hij), grant_release hij, available_release (sum_grant_le g.pos g.free), hheld]

/-- **Releasing is monotone.**  A release leaves a safe state safe.  What another lane would have been granted before
it, asked for anew or again, it is granted after it, and so much more is left as was released. -/
theorem release_monotone (a : Allocator) (i j : Lane) (hij : i ≠ j) :
    (a.safe = true → (a.release i).2.safe = true) ∧
    (∀ n free, (a.requestQuadrants j n).1 = .ok free →
      ((a.release i).2.requestQuadrants j n).1 = .ok (free + (a.release i).1)) ∧
    (∀ free, (a.retryPending j).1 = .ok (some free) →
      ((a.release i).2.retryPending j).1 = .ok (some (free + (a.release i).1))) := by
  refine ⟨fun h => safe_release h i, fun n free h => requestQuadrants_release hij h, fun free h => ?_⟩
  have hpending : (a.release i).2.request.get j = a.request.get j := by
    rw [release_request, if_neg (Ne.symm hij)]
  rcases a.retryPending_cases j with ⟨-, hr⟩ | ⟨hpos, hr⟩
  · rw [hr] at h
    cases h
  · rw [hr] at h
    have hok : (a.requestQuadrants j (a.request.get j)).1 = .ok free := by
      cases hq : (a.requestQuadrants j (a.request.get j)).1 with
      | error e =>
        rw [hq] at h
        cases h
      | ok free' =>
        rw [hq] at h
        cases h
        rfl
    rcases (a.release i).2.retryPending_cases j with ⟨h0, -⟩ | ⟨-, hr'⟩
    · omega
    · rw [hr', hpending, requestQuadrants_release hij hok]
      rfl

/-- The south was denied two quadrants; the north holds two of four, and the other two are free again. -/
def southWaits : Allocator := { allocation := ⟨2, 0, 0, 0⟩, request := ⟨0, 2, 0, 0⟩ }

/-- The south may have the two that are free, and so it may when the north has given back its own. -/
theorem release_monotone_southWaits : Becomes {} southWaits ∧ southWaits.safe = true ∧
    (southWaits.release .north).2.safe = true ∧ (southWaits.retryPending .south).1 = .ok (some 0) ∧
      ((southWaits.release .north).2.retryPending .south).1 = .ok (some 2) := by
  have hbecomes : Becomes {} southWaits :=
    ((Becomes.refl.request .north 2).request .east 1).request .south 2 |>.release .east
  have hsafe : southWaits.safe = true := by decide
  have hretry : (southWaits.retryPending .south).1 = .ok (some 0) := rfl
  obtain ⟨hkept, -, hretried⟩ := release_monotone southWaits .north .south (by decide)
  exact ⟨hbecomes, hsafe, hkept hsafe, hretry, hretried 0 hretry⟩

end Allocator
end Crossroads
