import Crossroads.Proofs.Traffic.Tidy
import Mathlib.Order.Compare
/-!
# The foremost emergency

Among the pending emergencies of some lanes one comes strictly before all others, as no two are of the same lane; that
is the one that is served next (`Emergencies.Tidy.nextWhere_eq_some_iff`).
-/
namespace Crossroads

variable {a b ev : EmergencyEvent} {em em' : Emergencies} {p : Lane → Bool}

/-- Whether an emergency is served before another: the heavier kind first, then the one that was raised earlier, then
the one of the lower lane. -/
def EmergencyEvent.Before (a b : EmergencyEvent) : Prop :=
  b.kind.weight < a.kind.weight ∨ (b.kind.weight = a.kind.weight ∧
    (a.arrivalTick < b.arrivalTick ∨ (a.arrivalTick = b.arrivalTick ∧ a.lane.index < b.lane.index)))

theorem EmergencyEvent.Before.asymm (h : a.Before b) : ¬ b.Before a := by
  unfold Before at *
  omega

instance : Std.TransCmp EmergencyEvent.order :=
  inferInstanceAs (Std.TransCmp (compareLex (compareLex (fun a b : EmergencyEvent => compareOn (·.priority) b a)
    (compareOn (·.arrivalTick))) (compareOn (·.lane.index))))

theorem EmergencyEvent.before_of_isLE (h : (a.order b).isLE = true) (hne : a.lane ≠ b.lane)
    (ha : a.priority = a.kind.weight) (hb : b.priority = b.kind.weight) : a.Before b := by
  have hindex : a.lane.index ≠ b.lane.index := fun e => hne (Lane.index_inj e)
  rw [order, ha, hb] at h
  rcases Nat.lt_trichotomy b.kind.weight a.kind.weight with hw | hw | hw
  · exact .inl hw
  · refine .inr ⟨hw, ?_⟩
    rcases Nat.lt_trichotomy a.arrivalTick b.arrivalTick with ht | ht | ht
    · exact .inl ht
    · rw [hw, ht, compare_eq_iff_eq.2 rfl, compare_eq_iff_eq.2 rfl] at h
      exact .inr ⟨ht, Nat.lt_of_le_of_ne (Nat.isLE_compare.1 h) hindex⟩
    · rw [hw, compare_eq_iff_eq.2 rfl, compare_gt_iff_gt.2 ht] at h
      cases h
  · rw [compare_gt_iff_gt.2 hw] at h
    cases h

namespace Emergencies

/-- The emergency that is served next among those of the eligible lanes. -/
structure Foremost (em : Emergencies) (p : Lane → Bool) (ev : EmergencyEvent) : Prop where
  pending : em.slots.get ev.lane = some ev
  eligible : p ev.lane = true
  first : ∀ l ev', em.slots.get l = some ev' → p l = true → l ≠ ev.lane → ev.Before ev'

theorem mem_pending : ev ∈ em.pending ↔ ∃ l, em.slots.get l = some ev := by
  rw [pending, PerLane.toList_eq, List.mem_filterMap]
  constructor
  · rintro ⟨slot, hslot, hev⟩
    obtain ⟨l, -, rfl⟩ := List.mem_map.1 hslot
    exact ⟨l, hev⟩
  · rintro ⟨l, hev⟩
    exact ⟨_, List.mem_map_of_mem l.mem_all, hev⟩

theorem Tidy.mem_eligible (h : em.Tidy) : ev ∈ em.pending.filter (fun ev => p ev.lane) ↔
    em.slots.get ev.lane = some ev ∧ p ev.lane = true := by
  rw [List.mem_filter, mem_pending]
  refine and_congr_left fun _ => ⟨fun ⟨l, hev⟩ => ?_, fun hev => ⟨_, hev⟩⟩
  rw [h.placed l ev hev]
  exact hev

theorem Tidy.nextWhere_eq_none_iff (h : em.Tidy) :
    em.nextWhere p = none ↔ ∀ l, em.isPending l = true → p l = false := by
  rw [nextWhere, firstLeast?_eq_none_iff, List.eq_nil_iff_forall_not_mem]
  constructor
  · intro hnone l hl
    obtain ⟨ev, hev⟩ := Option.isSome_iff_exists.1 hl
    refine Bool.eq_false_iff.2 fun he => hnone ev (h.mem_eligible.2 ?_)
    rw [h.placed l ev hev]
    exact ⟨hev, he⟩
  · intro hnone ev hev
    obtain ⟨hslot, he⟩ := h.mem_eligible.1 hev
    rw [hnone ev.lane (by rw [isPending, hslot]; rfl)] at he
    cases he

theorem Foremost.unique (h : em.Foremost p a) (h' : em.Foremost p b) : a = b := by
  by_cases hlane : a.lane = b.lane
  · have hslot := h.pending
    rw [hlane, h'.pending] at hslot
    exact (Option.some.inj hslot).symm
  · exact absurd (h'.first _ _ h.pending h.eligible hlane)
      (h.first _ _ h'.pending h'.eligible (Ne.symm hlane)).asymm

theorem Tidy.foremost_of_nextWhere (h : em.Tidy) (hn : em.nextWhere p = some ev) :
    em.Foremost p ev := by
  obtain ⟨hslot, he⟩ := h.mem_eligible.1 (mem_of_firstLeast? hn)
  refine ⟨hslot, he, fun l ev' hev' hl hne => ?_⟩
  have hlane : ev'.lane = l := h.placed l ev' hev'
  have hmem : ev' ∈ em.pending.filter (fun ev => p ev.lane) := h.mem_eligible.2 (by rw [hlane]; exact ⟨hev', hl⟩)
  exact EmergencyEvent.before_of_isLE (isLE_of_firstLeast? hn hmem) (fun e => hne (hlane.symm.trans e.symm))
    (h.weighed _ _ hslot) (h.weighed _ _ hev')

/-- **The foremost emergency is the one that is served next.** -/
theorem Tidy.nextWhere_eq_some_iff (h : em.Tidy) : em.nextWhere p = some ev ↔ em.Foremost p ev := by
  refine ⟨h.foremost_of_nextWhere, fun hev => ?_⟩
  cases hn : em.nextWhere p with
  | none =>
    have he := h.nextWhere_eq_none_iff.1 hn ev.lane (by rw [isPending, hev.pending]; rfl)
    rw [hev.eligible] at he
    cases he
  | some ev' => rw [(h.foremost_of_nextWhere hn).unique hev]

theorem Foremost.of_slots (h : em.Foremost p ev) (hs : ∀ l, p l = true → em'.slots.get l = em.slots.get l) :
    em'.Foremost p ev where
  pending := (hs _ h.eligible).trans h.pending
  eligible := h.eligible
  first l ev' hev' hl := h.first l ev' ((hs l hl).symm.trans hev') hl

theorem Tidy.nextWhere_congr (h : em.Tidy) (h' : em'.Tidy) (hs : ∀ l, p l = true → em'.slots.get l = em.slots.get l) :
    em'.nextWhere p = em.nextWhere p := by
  refine Option.ext fun ev => ?_
  rw [h'.nextWhere_eq_some_iff, h.nextWhere_eq_some_iff]
  exact ⟨fun hev => hev.of_slots fun l hl => (hs l hl).symm, fun hev => hev.of_slots hs⟩

end Emergencies

end Crossroads
