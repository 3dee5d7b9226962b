import Crossroads.Junction
import Crossroads.Proofs.WaitFor.Search
/-!
# Who waits for whom

In the wait-for graph of a junction every stuck lane waits for every other lane that holds quadrants
(`hasEdge_waitForGraph`).  Hence the members of a cycle are stuck and hold something, and two such lanes are enough for
a cycle (`findCycle_eq_none_iff_stuckHolders`).
-/
namespace Crossroads
namespace WaitForGraph

theorem hasEdge_addEdge_iff {g : WaitForGraph} {i j a b : Lane} :
    (g.addEdge i j).hasEdge a b = true ↔ g.hasEdge a b = true ∨ i ≠ j ∧ a = i ∧ b = j := by
  rw [hasEdge_addEdge]
  simp only [Bool.or_eq_true, Bool.and_eq_true, bne_iff_ne, beq_iff_eq, and_assoc]

theorem hasEdge_foldl_addEdge {i a b : Lane} : ∀ (js : List Lane) {g : WaitForGraph},
    (js.foldl (fun g j => g.addEdge i j) g).hasEdge a b = true ↔ g.hasEdge a b = true ∨ a = i ∧ i ≠ b ∧ b ∈ js
  | [], g => by simp
  | j :: js, g => by
    rw [List.foldl_cons, hasEdge_foldl_addEdge js, hasEdge_addEdge_iff, List.mem_cons]
    constructor
    · rintro ((h | ⟨hne, rfl, rfl⟩) | ⟨rfl, hne, hb⟩)
      · exact .inl h
      · exact .inr ⟨rfl, hne, .inl rfl⟩
      · exact .inr ⟨rfl, hne, .inr hb⟩
    · rintro (h | ⟨rfl, hne, rfl | hb⟩)
      · exact .inl (.inl h)
      · exact .inl (.inr ⟨hne, rfl, rfl⟩)
      · exact .inr ⟨rfl, hne, hb⟩

theorem hasEdge_foldl_row {a b : Lane} {js : List Lane} : ∀ (ss : List LaneSnapshot) {g : WaitForGraph},
    (ss.foldl (fun g s => js.foldl (fun g j => g.addEdge s.lane j) g) g).hasEdge a b = true ↔
      g.hasEdge a b = true ∨ (∃ s ∈ ss, s.lane = a) ∧ a ≠ b ∧ b ∈ js
  | [], g => by simp
  | s :: ss, g => by
    rw [List.foldl_cons, hasEdge_foldl_row ss, hasEdge_foldl_addEdge js, List.exists_mem_cons_iff]
    constructor
    · rintro ((h | ⟨rfl, h⟩) | ⟨hs, h⟩)
      · exact .inl h
      · exact .inr ⟨.inl rfl, h⟩
      · exact .inr ⟨.inr hs, h⟩
    · rintro (h | ⟨rfl | hs, h⟩)
      · exact .inl (.inl h)
      · exact .inl (.inr ⟨rfl, h⟩)
      · exact .inr ⟨hs, h⟩

/-- **Stuck lanes wait for the other lanes that hold something.** -/
theorem hasEdge_build {lanes : PerLane LaneSnapshot} {resources : ResourceSnapshot} {a b : Lane} :
    (build lanes resources).hasEdge a b = true ↔
      (∃ s ∈ lanes.toList, isStuck resources s = true ∧ s.lane = a) ∧ a ≠ b ∧ 0 < resources.allocation.get b := by
  have hnone : ({} : WaitForGraph).hasEdge a b = false := by
    rw [hasEdge, PerLane.get_replicate, PerLane.get_replicate]
  rw [build, hasEdge_foldl_row, hnone]
  simp only [List.mem_filter, and_assoc, Bool.false_eq_true, false_or, decide_eq_true_eq, Lane.mem_all, true_and]

end WaitForGraph

namespace Junction

variable {j : Junction} {a b l : Lane}

/-- The lane is blocked on more quadrants than are free. -/
def Stuck (j : Junction) (l : Lane) : Prop :=
  (j.lanes.get l).state = .blocked ∧ j.allocator.available < j.allocator.request.get l

def StuckHolder (j : Junction) (l : Lane) : Prop := j.Stuck l ∧ 0 < j.allocator.allocation.get l

instance : Decidable (j.Stuck l) := inferInstanceAs (Decidable (_ ∧ _))

instance : Decidable (j.StuckHolder l) := inferInstanceAs (Decidable (_ ∧ _))

theorem isStuck_snapshot :
    WaitForGraph.isStuck j.allocator.snapshot ((j.lanes.get l).snapshot l) = true ↔ j.Stuck l := by
  rw [WaitForGraph.isStuck, Bool.and_eq_true, decide_eq_true_eq, decide_eq_true_eq]
  rfl

theorem hasEdge_waitForGraph :
    j.waitForGraph.hasEdge a b = true ↔ j.Stuck a ∧ a ≠ b ∧ 0 < j.allocator.allocation.get b := by
  rw [waitForGraph, WaitForGraph.hasEdge_build, PerLane.toList_eq]
  refine and_congr_left fun _ => ?_
  simp only [List.mem_map, laneSnapshots, PerLane.get_ofFn, Lane.mem_all, true_and]
  constructor
  · rintro ⟨_, ⟨l, rfl⟩, h, rfl⟩
    exact isStuck_snapshot.1 h
  · intro h
    exact ⟨_, ⟨a, rfl⟩, isStuck_snapshot.2 h, rfl⟩

/-- **The members of a cycle are stuck holders**: each waits for someone, and someone waits for it. -/
theorem stuckHolder_of_mem_cycle {c : List Lane} (h : j.waitForGraph.IsCycle c) (hl : l ∈ c) : j.StuckHolder l := by
  obtain ⟨b, hb⟩ := h.exists_edge_from hl
  obtain ⟨a, ha⟩ := h.exists_edge_to hl
  exact ⟨(hasEdge_waitForGraph.1 hb).1, (hasEdge_waitForGraph.1 ha).2.2⟩

theorem exists_ne_of_mem_cycle {c : List Lane} (h : j.waitForGraph.IsCycle c) :
    ∃ a b, a ≠ b ∧ j.StuckHolder a ∧ j.StuckHolder b := by
  cases c with
  | nil => exact absurd rfl h.ne_nil
  | cons a ls =>
    cases ls with
    | nil => exact absurd rfl (hasEdge_waitForGraph.1 h.closes).2.1
    | cons b ls =>
      exact ⟨a, b, (hasEdge_waitForGraph.1 (List.isChain_cons_cons.1 h.chain).1).2.1,
        stuckHolder_of_mem_cycle h List.mem_cons_self,
        stuckHolder_of_mem_cycle h (List.mem_cons_of_mem _ List.mem_cons_self)⟩

theorem path_of_stuckHolders (hne : a ≠ b) (ha : j.StuckHolder a) (hb : j.StuckHolder b) :
    j.waitForGraph.Path a a :=
  .step (hasEdge_waitForGraph.2 ⟨ha.1, hne, hb.2⟩) (.edge (hasEdge_waitForGraph.2 ⟨hb.1, hne.symm, ha.2⟩))

/-- **The search finds nothing exactly if no two lanes are stuck holders.** -/
theorem findCycle_eq_none_iff_stuckHolders :
    j.waitForGraph.findCycle = none ↔ ∀ a b, j.StuckHolder a → j.StuckHolder b → a = b := by
  constructor
  · intro h a b ha hb
    by_contra hne
    exact WaitForGraph.not_path_of_findCycle_eq_none h a (path_of_stuckHolders hne ha hb)
  · intro h
    cases hc : j.waitForGraph.findCycle with
    | none => rfl
    | some c =>
      obtain ⟨a, b, hne, ha, hb⟩ := exists_ne_of_mem_cycle (WaitForGraph.findCycle_isCycle hc)
      exact absurd (h a b ha hb) hne

end Junction
end Crossroads
