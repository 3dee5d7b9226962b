import Crossroads.Junction.Build
import Crossroads.Proofs.Deadlock.Rounds
/-!
# What a sweep comes to

Whatever the lanes are in and whoever holds what, a sweep succeeds, leaves no wait cycle, and changes only its victims
(`sweepDeadlocks_swept`).
-/
namespace Crossroads
namespace Junction

variable {j j' : Junction} {r : Resolution} {rs : List Resolution}

/-- What the strategy compares: the quadrants a lane holds, or when its head vehicle arrived. -/
def yieldRank (j : Junction) (l : Lane) : Nat :=
  match j.strategy with
  | .smallestAllocation => j.allocator.allocation.get l
  | .longestWait        => (j.lanes.get l).headArrivalMs

theorem rank_eq_yieldRank (j : Junction) (l : Lane) :
    j.strategy.rank j.laneSnapshots j.allocator.snapshot l = j.yieldRank l := by
  cases hs : j.strategy with
  | smallestAllocation => simp only [VictimStrategy.rank, yieldRank, hs]; rfl
  | longestWait => simp only [VictimStrategy.rank, yieldRank, hs, laneSnapshots, PerLane.get_ofFn]; rfl

/-- A resolution of a junction: in a wait cycle the blocked member that the strategy ranks first gives up what it
holds. -/
structure Breaks (j : Junction) (r : Resolution) : Prop where
  isCycle : j.waitForGraph.IsCycle r.cycle
  mem : r.victim ∈ r.cycle
  blocked : (j.lanes.get r.victim).state = .blocked
  least : ∀ l ∈ r.cycle, j.yieldRank r.victim < j.yieldRank l ∨
    j.yieldRank r.victim = j.yieldRank l ∧ r.victim.index ≤ l.index
  released : r.released = j.allocator.allocation.get r.victim
  pos : 1 ≤ r.released

theorem Round.breaks (h : Round j r) : j.Breaks r where
  isCycle := h.isCycle
  mem := h.mem
  blocked := h.blocked
  least l hl := by
    rw [← rank_eq_yieldRank, ← rank_eq_yieldRank]
    exact VictimStrategy.select_least h.victim hl
  released := h.released
  pos := by
    rw [h.released]
    exact h.stuckHolder.2

/-- The state that a sweep of a junction leaves when it answers some resolutions. -/
structure Swept (j : Junction) (rs : List Resolution) (j' : Junction) : Prop where
  findCycle : j'.waitForGraph.findCycle = none
  acyclic : ∀ l, ¬ j'.waitForGraph.Path l l
  length_le : rs.length ≤ 3
  nodup : (rs.map (·.victim)).Nodup
  blocked : ∀ r ∈ rs, (j.lanes.get r.victim).state = .blocked
  released : ∀ r ∈ rs, r.released = j.allocator.allocation.get r.victim
  waiting : ∀ r ∈ rs, (j'.lanes.get r.victim).state = .waiting ∧
    j'.allocator.allocation.get r.victim = 0 ∧ j'.allocator.request.get r.victim = 0
  others : ∀ l, l ∉ rs.map (·.victim) → j'.lanes.get l = j.lanes.get l ∧
    j'.allocator.allocation.get l = j.allocator.allocation.get l ∧
    j'.allocator.request.get l = j.allocator.request.get l
  queues : ∀ l, (j'.lanes.get l).queue = (j.lanes.get l).queue
  available : j'.allocator.available = j.allocator.available + totalReleased rs
  metrics : j'.metrics = { j.metrics with deadlocksResolved := j.metrics.deadlocksResolved + rs.length }
  monitor : j'.monitor = j.monitor
  rest : j' = { j with
    lanes := j'.lanes
    allocator := { j'.allocator with total := j.allocator.total }
    metrics := j'.metrics }

theorem Rounds.swept (h : Rounds j rs j') (held : j.allocator.allocation.sum ≤ j.allocator.total) : j.Swept rs j' where
  findCycle := h.acyclic
  acyclic := WaitForGraph.not_path_of_findCycle_eq_none h.acyclic
  length_le := h.length_le
  nodup := h.nodup
  blocked := h.blocked
  released := h.released
  waiting r hr := by
    have hmem : r.victim ∈ rs.map (·.victim) := List.mem_map_of_mem hr
    rw [h.lanes_get, (h.allocator_get _).1, (h.allocator_get _).2, if_pos hmem, if_pos hmem, if_pos hmem]
    exact ⟨rfl, rfl, rfl⟩
  others l hl := by
    rw [h.lanes_get, (h.allocator_get l).1, (h.allocator_get l).2, if_neg hl, if_neg hl, if_neg hl]
    exact ⟨rfl, rfl, rfl⟩
  queues l := by
    rw [h.lanes_get]
    split
    · exact Approach.giveUp_queue _
    · rfl
  available := by
    have hsum := h.sum_allocation
    have htotal : j'.allocator.total = j.allocator.total := congrArg (fun i => i.allocator.total) h.frame
    rw [Allocator.available, Allocator.available, htotal]
    omega
  metrics := congrArg Junction.metrics h.frame
  monitor := by
    rw [h.frame]
  rest := by
    have hmetrics := congrArg Junction.metrics h.frame
    exact h.frame.trans (by rw [hmetrics])

/-- **A sweep breaks every wait cycle and touches only its victims.**  Cut off after some rounds, it is where it chose
the next victim. -/
theorem sweepDeadlocks_swept (j : Junction) (held : j.allocator.allocation.sum ≤ j.allocator.total) :
    ∃ rs j', sweepDeadlocks.runOn j = (.ok rs, j') ∧ j.Swept rs j' ∧
      ∀ (k : Nat) (hk : k < rs.length), ∃ i, (breakCycles k).runOn j = (.ok (rs.take k), i) ∧ i.Breaks rs[k] := by
  obtain ⟨rs, j', hrun, hrs⟩ := exists_rounds_sweepDeadlocks j
  refine ⟨rs, j', hrun, hrs.swept held, fun k hk => ?_⟩
  obtain ⟨i, hi, hr⟩ := hrs.round_at hk
  exact ⟨i, hi, hr.breaks⟩

/-- Two lanes that hold two quadrants each and are blocked on a third one. -/
def standoff (strategy : VictimStrategy) : Junction :=
  let j := Parts.assemble { policy := .sjf, strategy := strategy } 0
  { j with
    lanes := (j.lanes.modify .north (fun a => a.blockOn 1)).modify .south (fun a => a.blockOn 1)
    allocator := { allocation := ⟨2, 2, 0, 0⟩, request := ⟨1, 1, 0, 0⟩ } }

theorem sweepDeadlocks_swept_standoff :
    (∀ strategy, (standoff strategy).waitForGraph.findCycle = some [.north, .south]) ∧
      ∀ strategy, ∃ rs j', sweepDeadlocks.runOn (standoff strategy) = (.ok rs, j') ∧ (standoff strategy).Swept rs j' ∧
        ∀ (k : Nat) (hk : k < rs.length),
          ∃ i, (breakCycles k).runOn (standoff strategy) = (.ok (rs.take k), i) ∧ i.Breaks rs[k] := by
  constructor
  · intro strategy
    cases strategy <;> decide
  · intro strategy
    exact sweepDeadlocks_swept (standoff strategy) (by cases strategy <;> decide)

end Junction
end Crossroads
