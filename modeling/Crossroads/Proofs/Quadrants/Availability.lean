import Crossroads.Proofs.Quadrants.Requests
/-!
# Availability

A state is safe exactly if it has no stuck set (`isSafe_eq_false_iff`).  A lane that is granted what it asks for has no
need left and is in no stuck set, so a stuck set of the state after the grant was one before (`StuckSet.of_grant`).
Therefore in a safe state a request is granted as soon as enough is free, and a request that is denied although enough
is free is denied for the sake of lanes that were stuck already (`Allocator.granted_iff_available`).
-/
namespace Crossroads

variable {total n : Nat} {allocation need : PerLane Nat} {l : Lane} {ls : List Lane}

namespace PerLane

theorem sumOver_congr {p q : PerLane Nat} : ∀ {ls : List Lane}, (∀ l ∈ ls, p.get l = q.get l) →
    p.sumOver ls = q.sumOver ls
  | [], _ => rfl
  | l :: ls, h => by
    rw [sumOver, sumOver, h l List.mem_cons_self, sumOver_congr fun m hm => h m (List.mem_cons_of_mem _ hm)]

theorem sumOver_le_of_subset (p : PerLane Nat) :
    ∀ {ls ms : List Lane}, ls.Nodup → ls ⊆ ms → p.sumOver ls ≤ p.sumOver ms
  | [], _, _, _ => Nat.zero_le _
  | l :: ls, ms, hnodup, hsub => by
    obtain ⟨hl, hnodup'⟩ := List.nodup_cons.1 hnodup
    have hsub' : ls ⊆ ms.erase l := fun m hm => by
      have hne : m ≠ l := fun e => hl (e ▸ hm)
      exact (List.mem_erase_of_ne hne).2 (hsub (List.mem_cons_of_mem _ hm))
    have ih := p.sumOver_le_of_subset hnodup' hsub'
    have herase := p.sumOver_erase (hsub List.mem_cons_self)
    rw [sumOver]
    omega

end PerLane

/-! ## Stuck sets and orders -/

namespace StuckSet

/-- Whoever of a stuck set is first in an order needs more than there is without the stuck set. -/
theorem not_finishes (s : StuckSet total allocation need ls) : ∀ {order : List Lane} {free : Nat}, ls ⊆ order →
    free + allocation.sumOver order ≤ total → ¬ Finishes allocation need free order
  | [], _, hsub, _, _ => s.ne_nil (List.subset_nil.1 hsub)
  | m :: order, free, hsub, hfree, ⟨hm, hrest⟩ => by
    by_cases hml : m ∈ ls
    · have hshort := s.short m hml
      have hle := allocation.sumOver_le_of_subset s.nodup hsub
      omega
    · have hsub' : ls ⊆ order := fun k hk =>
        (List.mem_cons.1 (hsub hk)).resolve_left fun e => hml (e ▸ hk)
      rw [PerLane.sumOver] at hfree
      exact s.not_finishes hsub' (by omega) hrest

theorem isSafe_eq_false (s : StuckSet total allocation need ls) : isSafe total allocation need = false := by
  refine Bool.eq_false_iff.2 fun hsafe => ?_
  obtain ⟨order, hperm, hsum, hfin⟩ := isSafe_eq_true_iff.1 hsafe
  have hall : ∀ l, l ∈ order := fun l => hperm.mem_iff.2 l.mem_all
  have hnodup : order.Nodup := hperm.nodup_iff.2 (by decide)
  have hle : allocation.sumOver order ≤ allocation.sumOver Lane.all :=
    allocation.sumOver_le_of_subset hnodup fun l _ => l.mem_all
  rw [← PerLane.sum_eq] at hle
  exact s.not_finishes (fun l _ => hall l) (by omega) hfin

/-- **A grant makes no stuck set.**  The lane that has all it asked for is in none. -/
theorem of_grant (s : StuckSet total (allocation.set l n) (need.set l 0) ls) (hle : (allocation.set l n).sum ≤ total) :
    l ∉ ls ∧ StuckSet total allocation need ls := by
  have hl : l ∉ ls := fun hl => by
    have hshort := s.short l hl
    have hsub := (allocation.set l n).sumOver_le_of_sublist s.sub
    rw [← PerLane.sum_eq] at hsub
    rw [PerLane.get_set_self] at hshort
    omega
  have hne : ∀ m ∈ ls, m ≠ l := fun m hm e => hl (e ▸ hm)
  have hsum : (allocation.set l n).sumOver ls = allocation.sumOver ls :=
    PerLane.sumOver_congr fun m hm => PerLane.get_set_of_ne _ _ (hne m hm)
  refine ⟨hl, s.ne_nil, s.sub, fun m hm => ?_⟩
  have hshort := s.short m hm
  rwa [hsum, PerLane.get_set_of_ne _ _ (hne m hm)] at hshort

end StuckSet

/-- **Unsafe states are those with a stuck set.** -/
theorem isSafe_eq_false_iff (held : allocation.sum ≤ total) :
    isSafe total allocation need = false ↔ ∃ ls, StuckSet total allocation need ls :=
  ⟨exists_stuckSet held, fun ⟨_, s⟩ => s.isSafe_eq_false⟩

/-! ## Requests that can be served at once -/

namespace Allocator

variable {a : Allocator}

theorem exists_stuckSet_of_unsafe_grant (hpos : 1 ≤ n) (hfree : n ≤ a.available) (h : (a.grant l n).safe = false) :
    ∃ ls, l ∉ ls ∧ StuckSet a.total a.allocation a.request ls := by
  have hle := sum_grant_le (l := l) hpos hfree
  obtain ⟨ls, s⟩ := exists_stuckSet hle h
  exact ⟨ls, s.of_grant hle⟩

theorem requestQuadrants_of_free (hpos : 1 ≤ n) (hfits : a.allocation.get l + n ≤ a.total) (hfree : n ≤ a.available) :
    ((a.grant l n).safe = true ∧ a.requestQuadrants l n = (.ok (a.grant l n).available, a.grant l n)) ∨
      ((a.grant l n).safe = false ∧
        a.requestQuadrants l n = (.error (.resourceDenied l n a.available), a.pend l n)) := by
  rcases a.requestQuadrants_cases l n with ⟨h0, -⟩ | ⟨-, hb, -⟩ | ⟨-, -, hno, e⟩ | ⟨g, e⟩
  · omega
  · omega
  · refine .inr ⟨Bool.eq_false_iff.2 fun hsafe => hno ?_, e⟩
    exact ⟨hpos, hfits, hfree, safe_grant_iff.1 hsafe⟩
  · exact .inl ⟨safe_grant_iff.2 g.finishes, e⟩

/-- **From a safe state, what is free alone decides.**  Whatever the lane asked for before, a valid request is granted
exactly if enough is free, and the state stays safe.  Where enough is free and the request is denied, the state was
unsafe before: some other lanes each ask for more than there is without what these lanes hold. -/
theorem granted_iff_available (a : Allocator) (l : Lane) (n : Nat) (hpos : 1 ≤ n)
    (hfits : a.allocation.get l + n ≤ a.total) :
    (a.safe = true → ((∃ free, (a.requestQuadrants l n).1 = .ok free) ↔ n ≤ a.available) ∧
      (n ≤ a.available → (a.requestQuadrants l n).2.safe = true)) ∧
    (∀ e, (a.requestQuadrants l n).1 = .error e → n ≤ a.available →
      a.safe = false ∧ ∃ ls, l ∉ ls ∧ StuckSet a.total a.allocation a.request ls) := by
  refine ⟨fun hsafe => ?_, fun e he hfree => ?_⟩
  · have hgrant : n ≤ a.available →
        a.requestQuadrants l n = (.ok (a.grant l n).available, a.grant l n) ∧ (a.grant l n).safe = true := by
      intro hfree
      rcases requestQuadrants_of_free hpos hfits hfree with ⟨hs, hr⟩ | ⟨hs, -⟩
      · exact ⟨hr, hs⟩
      · obtain ⟨ls, -, s⟩ := exists_stuckSet_of_unsafe_grant hpos hfree hs
        have hunsafe : a.safe = false := s.isSafe_eq_false
        rw [hsafe] at hunsafe
        cases hunsafe
    refine ⟨⟨fun ⟨free, hok⟩ => (granted_of_ok hok).1.free, fun hfree => ?_⟩, fun hfree => ?_⟩
    · rw [(hgrant hfree).1]
      exact ⟨_, rfl⟩
    · rw [(hgrant hfree).1]
      exact (hgrant hfree).2
  · rcases requestQuadrants_of_free hpos hfits hfree with ⟨-, hr⟩ | ⟨hs, -⟩
    · rw [hr] at he
      cases he
    · obtain ⟨ls, hl, s⟩ := exists_stuckSet_of_unsafe_grant hpos hfree hs
      exact ⟨s.isSafe_eq_false, ls, hl, s⟩

/-- The north and the south have one of four quadrants each. -/
def shared : Allocator := { allocation := ⟨1, 1, 0, 0⟩ }

/-- They have both been denied three more. -/
def contested : Allocator := { shared with request := ⟨3, 3, 0, 0⟩ }

/-- The two quadrants that are free are given to the east at first, and then they are denied to the west. -/
theorem granted_iff_available_contested : Becomes {} shared ∧ shared.Becomes contested ∧
    (∃ free, (shared.requestQuadrants .east 2).1 = .ok free) ∧
      (contested.requestQuadrants .west 2).1 = .error (.resourceDenied .west 2 2) ∧
        contested.safe = false ∧ ∃ ls, .west ∉ ls ∧ StuckSet 4 contested.allocation contested.request ls := by
  have hdenied : (contested.requestQuadrants .west 2).1 = .error (.resourceDenied .west 2 2) := rfl
  have heast := (granted_iff_available shared .east 2 (by decide) (by decide)).1 (by decide)
  have hwest := (granted_iff_available contested .west 2 (by decide) (by decide)).2 _ hdenied (by decide)
  exact ⟨(Becomes.refl.request .north 1).request .south 1, (Becomes.refl.request .north 3).request .south 3,
    heast.1.2 (by decide), hdenied, hwest⟩

end Allocator
end Crossroads
