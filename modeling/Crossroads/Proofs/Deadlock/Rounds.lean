import Crossroads.Junction.Sweep
import Crossroads.Proofs.WaitFor.Holders
/-!
# Rounds of a sweep

A sweep is a run of rounds, in each of which the chosen member of the first wait cycle gives way.  A cycle has two
blocked members and a round unblocks one lane, so the blocked lanes bound the rounds: four of them always reach a
junction without a cycle (`exists_rounds`).  Only the victims are touched on the way (`Rounds.lanes_get`).
-/
namespace Crossroads

open Act

namespace Approach

/-- The lane with empty hands, waiting. -/
def giveUp (a : Approach) : Approach := (a.setQuadrants 0 0).enter .waiting

@[simp] theorem giveUp_queue (a : Approach) : a.giveUp.queue = a.queue := rfl

@[simp] theorem giveUp_state (a : Approach) : a.giveUp.state = .waiting := rfl

end Approach

namespace Junction

variable {j j' : Junction} {l v : Lane} {r : Resolution} {rs : List Resolution}

/-! ## One round -/

def giveUp (j : Junction) (v : Lane) : Junction :=
  { j with
    lanes := j.lanes.set v (j.lanes.get v).giveUp
    allocator := (j.allocator.release v).2
    metrics := j.metrics.recordDeadlockResolved }

theorem runOn_giveWay (h : (j.lanes.get v).state = .blocked) :
    (giveWay v).runOn j = (.ok (j.allocator.allocation.get v), j.giveUp v) := by
  unfold giveWay
  rw [runOn_bind_of_ok (runOn_onAllocator ..), runOn_bind_of_ok (runOn_standDown ..), isBlocked,
    if_pos (decide_eq_true h), runOn_bind_of_ok (runOn_onMetrics ..)]
  rfl

theorem giveUp_get : (j.giveUp v).lanes.get l = if l = v then (j.lanes.get l).giveUp else j.lanes.get l := by
  rw [giveUp, PerLane.get_set]
  split
  · rename_i h
    rw [h]
  · rfl

theorem giveUp_blocked : ((j.giveUp v).lanes.get l).state = .blocked ↔ l ≠ v ∧ (j.lanes.get l).state = .blocked := by
  rw [giveUp_get]
  by_cases h : l = v <;> simp [h]

/-- What a round needs: the first cycle, its chosen member, and how much that member holds. -/
structure Round (j : Junction) (r : Resolution) : Prop where
  cycle : j.waitForGraph.findCycle = some r.cycle
  victim : j.strategy.select r.cycle j.laneSnapshots j.allocator.snapshot = some r.victim
  released : r.released = j.allocator.allocation.get r.victim

theorem Round.isCycle (h : Round j r) : j.waitForGraph.IsCycle r.cycle := WaitForGraph.findCycle_isCycle h.cycle

theorem Round.mem (h : Round j r) : r.victim ∈ r.cycle := mem_of_firstLeast? h.victim

theorem Round.stuckHolder (h : Round j r) : j.StuckHolder r.victim := stuckHolder_of_mem_cycle h.isCycle h.mem

theorem Round.blocked (h : Round j r) : (j.lanes.get r.victim).state = .blocked := h.stuckHolder.1.1

theorem exists_round {c : List Lane} (h : j.waitForGraph.findCycle = some c) : ∃ r, r.cycle = c ∧ Round j r := by
  have hsome : (j.strategy.select c j.laneSnapshots j.allocator.snapshot).isSome = true :=
    VictimStrategy.select_isSome (WaitForGraph.findCycle_isCycle h).ne_nil
  obtain ⟨v, hv⟩ := Option.isSome_iff_exists.1 hsome
  exact ⟨⟨c, v, j.allocator.allocation.get v⟩, rfl, h, hv, rfl⟩

/-! ## Runs of rounds -/

/-- How much the victims of some resolutions held together. -/
def totalReleased : List Resolution → Nat
  | []      => 0
  | r :: rs => r.released + totalReleased rs

/-- Rounds that lead from one junction to another in which no cycle is left. -/
inductive Rounds : Junction → List Resolution → Junction → Prop where
  | done {j : Junction} : j.waitForGraph.findCycle = none → Rounds j [] j
  | round {j j' : Junction} {r : Resolution} {rs : List Resolution} :
    Round j r → Rounds (j.giveUp r.victim) rs j' → Rounds j (r :: rs) j'

theorem runOn_breakCycles_done (n : Nat) (h : j.waitForGraph.findCycle = none) :
    (breakCycles n).runOn j = (.ok [], j) := by
  cases n with
  | zero => rfl
  | succ n =>
    rw [breakCycles, runOn_bind_of_ok (runOn_get j), h]
    rfl

theorem runOn_breakCycles_round {n : Nat} (h : Round j r)
    (hn : (breakCycles n).runOn (j.giveUp r.victim) = (.ok rs, j')) :
    (breakCycles (n + 1)).runOn j = (.ok (r :: rs), j') := by
  rw [breakCycles, runOn_bind_of_ok (runOn_get j), h.cycle, breakFound, h.victim]
  dsimp only
  rw [runOn_bind_of_ok (runOn_giveWay h.blocked), runOn_bind_of_ok hn, runOn_pure, ← h.released]

def blockedCount (j : Junction) : Nat := (j.lanes.map (fun a => if a.state = .blocked then 1 else 0)).sum

theorem blockedCount_giveUp (h : (j.lanes.get v).state = .blocked) :
    (j.giveUp v).blockedCount + 1 = j.blockedCount := by
  have hset := PerLane.sum_set (j.lanes.map (fun a => if a.state = .blocked then 1 else 0)) v 0
  rw [PerLane.get_map, if_pos h] at hset
  show ((j.lanes.set v _).map _).sum + 1 = _
  rw [PerLane.map_set]
  exact hset

theorem blockedCount_le : j.blockedCount ≤ 4 := by
  have h : ∀ l, (j.lanes.map (fun a => if a.state = .blocked then 1 else 0)).get l ≤ 1 := by
    intro l
    rw [PerLane.get_map]
    split <;> omega
  have hn := h .north
  have hs := h .south
  have he := h .east
  have hw := h .west
  simp only [PerLane.get] at hn hs he hw
  rw [blockedCount, PerLane.sum]
  omega

theorem Round.two_le_blockedCount (h : Round j r) : 2 ≤ j.blockedCount := by
  obtain ⟨a, b, hne, ha, hb⟩ := exists_ne_of_mem_cycle h.isCycle
  have hle := PerLane.get_add_get_le_sum (j.lanes.map (fun a => if a.state = .blocked then 1 else 0)) hne
  rw [PerLane.get_map, PerLane.get_map, if_pos ha.1.1, if_pos hb.1.1] at hle
  exact hle

/-- **A sweep with a round for all blocked lanes but one ends without a cycle.** -/
theorem exists_rounds : ∀ (n : Nat) {j : Junction}, j.blockedCount ≤ n + 1 →
    ∃ rs j', (breakCycles n).runOn j = (.ok rs, j') ∧ Rounds j rs j'
  | n, j, hn => by
    cases hc : j.waitForGraph.findCycle with
    | none => exact ⟨[], j, runOn_breakCycles_done n hc, .done hc⟩
    | some c =>
      obtain ⟨r, -, hr⟩ := exists_round hc
      have htwo := hr.two_le_blockedCount
      have hone := blockedCount_giveUp hr.blocked
      cases n with
      | zero => omega
      | succ n =>
        obtain ⟨rs, j', hrun, hrs⟩ := exists_rounds n (j := j.giveUp r.victim) (by omega)
        exact ⟨r :: rs, j', runOn_breakCycles_round hr hrun, .round hr hrs⟩

theorem exists_rounds_sweepDeadlocks (j : Junction) :
    ∃ rs j', sweepDeadlocks.runOn j = (.ok rs, j') ∧ Rounds j rs j' :=
  exists_rounds 4 (Nat.le_succ_of_le blockedCount_le)

namespace Rounds

theorem acyclic (h : Rounds j rs j') : j'.waitForGraph.findCycle = none := by
  induction h with
  | done hc => exact hc
  | round _ _ ih => exact ih

/-- One blocked lane is left over. -/
theorem length_lt (h : Rounds j rs j') : rs = [] ∨ rs.length < j.blockedCount := by
  induction h with
  | done _ => exact .inl rfl
  | @round j j' r rs hr _ ih =>
    have htwo := hr.two_le_blockedCount
    have hone := blockedCount_giveUp hr.blocked
    refine .inr ?_
    rw [List.length_cons]
    rcases ih with rfl | ih
    · rw [List.length_nil]
      omega
    · omega

theorem length_le (h : Rounds j rs j') : rs.length ≤ 3 := by
  have hle : j.blockedCount ≤ 4 := blockedCount_le
  rcases h.length_lt with rfl | hlt
  · exact Nat.zero_le 3
  · omega

/-- Every round is one of the junction that the rounds before it leave. -/
theorem round_at (h : Rounds j rs j') : ∀ {k : Nat} (hk : k < rs.length),
    ∃ i, (breakCycles k).runOn j = (.ok (rs.take k), i) ∧ Round i rs[k] := by
  induction h with
  | done _ => exact fun hk => absurd hk (Nat.not_lt_zero _)
  | @round j j' r rs hr _ ih =>
    intro k hk
    cases k with
    | zero => exact ⟨j, rfl, hr⟩
    | succ k =>
      obtain ⟨i, hrun, hi⟩ := ih (Nat.lt_of_succ_lt_succ hk)
      exact ⟨i, runOn_breakCycles_round hr hrun, hi⟩

theorem blocked (h : Rounds j rs j') : ∀ r ∈ rs, (j.lanes.get r.victim).state = .blocked := by
  induction h with
  | done _ => exact fun r hr => by cases hr
  | @round j j' s rs hs _ ih =>
    intro r hr
    rcases List.mem_cons.1 hr with rfl | hr
    · exact hs.blocked
    · exact (giveUp_blocked.1 (ih r hr)).2

theorem not_mem (h : Rounds (j.giveUp v) rs j') : v ∉ rs.map (·.victim) := by
  intro hv
  obtain ⟨r, hr, rfl⟩ := List.mem_map.1 hv
  exact (giveUp_blocked.1 (h.blocked r hr)).1 rfl

theorem nodup (h : Rounds j rs j') : (rs.map (·.victim)).Nodup := by
  induction h with
  | done _ => exact List.nodup_nil
  | round _ hrs ih => exact List.nodup_cons.2 ⟨hrs.not_mem, ih⟩

/-! ## What a sweep leaves alone -/

theorem lanes_get (h : Rounds j rs j') (l : Lane) :
    j'.lanes.get l = if l ∈ rs.map (·.victim) then (j.lanes.get l).giveUp else j.lanes.get l := by
  induction h with
  | done _ => rfl
  | @round j j' r rs _ hrs ih =>
    rw [ih, giveUp_get, List.map_cons]
    by_cases hl : l = r.victim
    · rw [if_neg (by rw [hl]; exact hrs.not_mem), if_pos hl, if_pos (by rw [hl]; exact List.mem_cons_self)]
    · simp only [if_neg hl, List.mem_cons, or_iff_right hl]

/-- **The victims hold and ask for nothing; the other lanes hold and ask for what they did.** -/
theorem allocator_get (h : Rounds j rs j') (l : Lane) :
    j'.allocator.allocation.get l = (if l ∈ rs.map (·.victim) then 0 else j.allocator.allocation.get l) ∧
      j'.allocator.request.get l = if l ∈ rs.map (·.victim) then 0 else j.allocator.request.get l := by
  induction h with
  | done _ => exact ⟨rfl, rfl⟩
  | @round j j' r rs _ _ ih =>
    rw [ih.1, ih.2, giveUp, Allocator.release_allocation, Allocator.release_request, List.map_cons]
    by_cases hl : l = r.victim
    · rw [if_pos hl, if_pos hl, if_pos (List.mem_cons.2 (.inl hl)), if_pos (List.mem_cons.2 (.inl hl)), ite_self]
      exact ⟨rfl, rfl⟩
    · simp only [if_neg hl, List.mem_cons, or_iff_right hl, and_self]

theorem frame (h : Rounds j rs j') :
    j' = { j with
      lanes := j'.lanes
      allocator := { j'.allocator with total := j.allocator.total }
      metrics := { j.metrics with deadlocksResolved := j.metrics.deadlocksResolved + rs.length } } := by
  induction h with
  | done _ => rfl
  | @round j j' r rs _ _ ih =>
    refine ih.trans ?_
    rw [List.length_cons, Nat.add_comm rs.length, ← Nat.add_assoc]
    rfl

theorem released (h : Rounds j rs j') : ∀ r ∈ rs, r.released = j.allocator.allocation.get r.victim := by
  induction h with
  | done _ => exact fun r hr => by cases hr
  | @round j j' s rs hs hrs ih =>
    intro r hr
    rcases List.mem_cons.1 hr with rfl | hr
    · exact hs.released
    · have hne : r.victim ≠ s.victim := fun e => hrs.not_mem (e ▸ List.mem_map_of_mem hr)
      rw [ih r hr, giveUp, Allocator.release_allocation, if_neg hne]

theorem sum_allocation (h : Rounds j rs j') :
    j'.allocator.allocation.sum + totalReleased rs = j.allocator.allocation.sum := by
  induction h with
  | done _ => rfl
  | @round j j' r rs hr _ ih =>
    have hset := PerLane.sum_set j.allocator.allocation r.victim 0
    rw [← hr.released] at hset
    have hgive : (j.giveUp r.victim).allocator.allocation = j.allocator.allocation.set r.victim 0 := rfl
    rw [hgive] at ih
    rw [totalReleased]
    omega

end Rounds

end Junction
end Crossroads
