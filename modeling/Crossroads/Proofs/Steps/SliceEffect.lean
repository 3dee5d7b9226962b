import Crossroads.Proofs.Steps.Slice
import Crossroads.Proofs.Traffic.Tidy
/-!
# The exact effect of a slice

What a slice of a running lane changes, in every field of the lane, the counters and the scheduler
(`Junction.CrossesTo`), and that it changes nothing else; a slice of any other lane changes nothing at all.
-/
namespace Crossroads

open Act

variable {j : Junction} {l : Lane} {a : Approach} {crossed rest : List Vehicle} {allowed : Operation → Prop}

/-- How long some vehicles have waited at some moment, all together. -/
def waitSum (startMs : Nat) (vs : List Vehicle) : Nat := (vs.map (fun v => startMs - v.arrivedMs)).sum

namespace Approach

/-- The lane when some vehicles at its head have crossed and the others remain. -/
def crossedBy (a : Approach) (startMs : Nat) (crossed rest : List Vehicle) : Approach :=
  { a with
    queue := { a.queue with vehicles := rest }
    queueLength := rest.length
    state := if rest = [] then .waiting else .running
    lastServiceMs := if 0 < crossed.length then some startMs else a.lastServiceMs
    totalServed := a.totalServed + crossed.length
    totalWaitMs := a.totalWaitMs + waitSum startMs crossed
    slicesConsumed := if rest = [] then 0 else a.slicesConsumed + 1 }

theorem waitOf_append (hq : a.queue.vehicles = crossed ++ rest) (startMs : Nat) :
    a.waitOf startMs crossed.length = waitSum startMs crossed := by
  rw [waitOf, hq, List.take_left]
  rfl

theorem serveFirst_append (hc : a.traffic.Cached) (hq : a.queue.vehicles = crossed ++ rest) (startMs : Nat) :
    a.serveFirst startMs crossed.length = { a with
      queue := { a.queue with vehicles := rest }
      queueLength := rest.length
      totalServed := a.totalServed + crossed.length
      totalWaitMs := a.totalWaitMs + waitSum startMs crossed } := by
  have hcached : a.queueLength = a.queue.vehicles.length := hc
  have hlen : a.queueLength - crossed.length = rest.length := by
    rw [hcached, hq, List.length_append, Nat.add_sub_cancel_left]
  rw [serveFirst, waitOf_append hq, hlen, hq, List.drop_left]

/-- **A slice drains the lane or leaves it running.** -/
theorem closed_opened (hr : a.state = .running) (hc : a.traffic.Cached) (hq : a.queue.vehicles = crossed ++ rest)
    (startMs : Nat) : (a.opened startMs crossed.length).closed = a.crossedBy startMs crossed rest := by
  rw [opened, serveFirst_append hc hq, closed, crossedBy]
  cases rest with
  | nil =>
    rw [if_pos ⟨hr, rfl⟩]
    rfl
  | cons v vs =>
    rw [if_neg fun h => Nat.succ_ne_zero _ h.2]
    simp [hr]

end Approach

namespace Junction

/-- **What a slice changes** when some vehicles at the head of the lane cross and the others remain. -/
structure CrossesTo (j : Junction) (l : Lane) (crossed rest : List Vehicle) (r : SliceRecord) (i : Junction) :
    Prop where
  queue : (j.lanes.get l).queue.vehicles = crossed ++ rest
  batch : crossed.length = min j.settings.batchSize (j.lanes.get l).queue.length
  record : r = { lane := l, startMs := j.clock, endMs := i.clock, vehicles := crossed.length }
  /-- Nobody waits for an empty batch, or once a stop was requested. -/
  clock : i.clock = if 0 < crossed.length ∧ j.stopped = false then j.clock + j.settings.crossTimeMs else j.clock
  lane : i.lanes.get l = (j.lanes.get l).crossedBy j.clock crossed rest
  others : ∀ m, m ≠ l → i.lanes.get m = j.lanes.get m
  metrics : i.metrics = { j.metrics with
    totalProcessed := j.metrics.totalProcessed + crossed.length
    laneThroughput := j.metrics.laneThroughput.modify l (· + crossed.length)
    laneWaitMs := j.metrics.laneWaitMs.modify l (· + waitSum j.clock crossed)
    busyMs := j.metrics.busyMs + (i.clock - j.clock) }
  scheduler : i.scheduler = { j.scheduler with
    history := (j.scheduler.history.push r).2
    sliceCount := if j.scheduler.current = some l then j.scheduler.sliceCount + 1 else j.scheduler.sliceCount }
  frame : i = { j with lanes := i.lanes, metrics := i.metrics, clock := i.clock, scheduler := i.scheduler }

theorem crossesTo_sliced (hr : j.Runs l) (hc : (j.lanes.get l).traffic.Cached) :
    j.CrossesTo l ((j.lanes.get l).queue.vehicles.take (j.batch l)) ((j.lanes.get l).queue.vehicles.drop (j.batch l))
      (j.sliceRecord l) (j.sliced l) := by
  have hq := (List.take_append_drop (j.batch l) (j.lanes.get l).queue.vehicles).symm
  have hlen : ((j.lanes.get l).queue.vehicles.take (j.batch l)).length = j.batch l := by
    rw [List.length_take, batch, VehicleQueue.length]
    omega
  have hlane := Approach.closed_opened hr hc hq j.clock
  have hwait := Approach.waitOf_append hq j.clock
  rw [hlen] at hlane hwait
  refine ⟨hq, hlen, ?_, ?_, ?_, fun m hm => PerLane.get_set_of_ne _ _ hm, ?_, rfl, rfl⟩
  · rw [hlen]
    rfl
  · have hclock : (j.sliced l).clock = j.clock + j.crossingMs (j.batch l) := rfl
    rw [hlen, hclock, crossingMs]
    split <;> rfl
  · exact (PerLane.get_set_self _ _ _).trans hlane
  · rw [hlen, ← hwait]
    rfl

end Junction

open Junction

theorem Operation.runOn_slice (l : Lane) (j : Junction) :
    (Operation.slice l).runOn j = (((executeSlice l).runOn j).1.map .slice, ((executeSlice l).runOn j).2) :=
  runOn_then_pure _ _ j

namespace Junction

/-- **The exact effect of a slice** on whatever was done to the junction before, for every batch size and clock. -/
theorem slice_reachable (h : j.Reachable allowed) (l : Lane) (batchSize now : Nat) :
    let i : Junction := { j with settings := { j.settings with batchSize := batchSize }, clock := now }
    (¬ j.Runs l → (Operation.slice l).runOn i = (.ok (.slice none), i)) ∧
      (j.Runs l → ∃ crossed rest r i', (Operation.slice l).runOn i = (.ok (.slice (some r)), i') ∧
        i.CrossesTo l crossed rest r i') := by
  intro i
  have hc : (i.lanes.get l).traffic.Cached := cached_lane (j := i) h.tidy.cached l
  constructor
  · intro hr
    rw [Operation.runOn_slice, runOn_executeSlice_of_not_runs (show ¬ i.Runs l from hr)]
    rfl
  · intro hr
    have hruns : i.Runs l := hr
    refine ⟨_, _, _, _, ?_, crossesTo_sliced hruns hc⟩
    rw [Operation.runOn_slice, runOn_executeSlice hruns hc]
    rfl

/-- Of five vehicles in the north three cross and two remain; the south does not run. -/
theorem slice_reachable_north :
    let ops : List Operation := [.arrive .north none, .arrive .north none, .arrive .north none, .arrive .north none,
      .arrive .north none, .schedule]
    let j : Junction := (Blueprint.assemble { config := {} } {} 0).after ops
    let i : Junction := { j with settings := { j.settings with batchSize := 3 }, clock := 7 }
    j.Runs .north ∧ ¬ j.Runs .south ∧ (Operation.slice .south).runOn i = (.ok (.slice none), i) ∧
      ∃ crossed rest r i', (Operation.slice .north).runOn i = (.ok (.slice (some r)), i') ∧
        i.CrossesTo .north crossed rest r i' ∧ crossed.length = 3 ∧ rest.length = 2 := by
  intro ops j i
  have hbuilt : (Blueprint.assemble { config := {} } {} 0).Reachable (fun _ => True) :=
    .built (b := { config := {} }) rfl
  have hreach : j.Reachable (fun _ => True) := hbuilt.after ops fun _ _ => trivial
  have hnorth : j.Runs .north := by decide +kernel
  have hsouth : ¬ j.Runs .south := by decide +kernel
  have hfive : (j.lanes.get .north).queue.length = 5 := by decide +kernel
  -- from here on the junction is any one with these properties
  clear_value j
  obtain ⟨crossed, rest, r, i', hrun, hc⟩ := (slice_reachable hreach .north 3 7).2 hnorth
  have hthree : crossed.length = 3 := hc.batch.trans (congrArg (min 3) hfive)
  have hsum : 5 = crossed.length + rest.length :=
    hfive.symm.trans ((congrArg List.length hc.queue).trans List.length_append)
  refine ⟨hnorth, hsouth, (slice_reachable hreach .south 3 7).1 hsouth, crossed, rest, r, i', hrun, hc, hthree, ?_⟩
  omega

end Junction

end Crossroads
