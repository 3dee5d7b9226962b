import Crossroads.Proofs.Steps.Slice
import Crossroads.Proofs.Quadrants.Requests
/-!
# Serving a lane with all quadrants free

While nobody holds a quadrant, whoever asks for some gets them.  So a running lane is admitted, has its slice, and gives
its quadrants back, and all of them are free again afterwards (`runOn_serveLane`).
-/
namespace Crossroads

open Act

variable {j : Junction} {l : Lane} {n : Nat} {a : Approach}

/-! ## Free quadrants -/

theorem Finishes.of_no_need {allocation need : PerLane Nat} (h : ∀ l, need.get l = 0) :
    ∀ (order : List Lane) (free : Nat), Finishes allocation need free order
  | [], _ => trivial
  | l :: ls, free => by
    refine ⟨?_, of_no_need h ls _⟩
    rw [h l]
    exact Nat.zero_le free

namespace Allocator

theorem grantable_fresh (l : Lane) (hpos : 1 ≤ n) (hle : n ≤ totalQuadrants) : ({} : Allocator).Grantable l n where
  pos := hpos
  fits := by
    show (PerLane.replicate 0).get l + n ≤ totalQuadrants
    rw [PerLane.get_replicate, Nat.zero_add]
    exact hle
  free := hle
  finishes := by
    refine ⟨Lane.all, .refl _, ?_, .of_no_need (fun m => ?_) _ _⟩
    · have hsum := (PerLane.replicate 0).sum_set l ((PerLane.replicate 0).get l + n)
      rw [PerLane.get_replicate] at hsum
      have hfresh : (PerLane.replicate 0).sum = 0 := rfl
      show ((PerLane.replicate 0).set l ((PerLane.replicate 0).get l + n)).sum ≤ totalQuadrants
      rw [PerLane.get_replicate]
      omega
    · show ((PerLane.replicate 0).set l 0).get m = 0
      rw [PerLane.get_set, PerLane.get_replicate, ite_self]

/-- **Whoever asks a free allocator for some of its quadrants gets them.** -/
theorem requestQuadrants_fresh (l : Lane) (hpos : 1 ≤ n) (hle : n ≤ totalQuadrants) : ∃ free,
    ({} : Allocator).requestQuadrants l n = (.ok free, ({} : Allocator).grant l n) := by
  rcases ({} : Allocator).requestQuadrants_cases l n with ⟨h0, -⟩ | ⟨-, hb, -⟩ | ⟨-, -, hno, -⟩ | ⟨-, e⟩
  · omega
  · exact absurd (grantable_fresh l hpos hle).fits (Nat.not_le.2 hb)
  · exact absurd (grantable_fresh l hpos hle) hno
  · exact ⟨_, e⟩

theorem release_grant_fresh (l : Lane) (n : Nat) : ((({} : Allocator).grant l n).release l).2 = {} := by
  cases l <;> rfl

end Allocator

open Junction

/-- The junction with quadrants given to a lane. -/
def Junction.holding (j : Junction) (l : Lane) (allocator : Allocator) (n : Nat) : Junction :=
  { j with allocator := allocator, lanes := j.lanes.set l ((j.lanes.get l).setQuadrants n 0) }

theorem runOn_admitLane (ha : j.allocator = {}) (hpos : 1 ≤ j.config.quadrantsPerCrossing)
    (hle : j.config.quadrantsPerCrossing ≤ totalQuadrants) (l : Lane) : (admitLane l).runOn j = (.ok true,
      j.holding l (({} : Allocator).grant l j.config.quadrantsPerCrossing) j.config.quadrantsPerCrossing) := by
  obtain ⟨free, hreq⟩ := Allocator.requestQuadrants_fresh l hpos hle
  have hheld : j.allocator.allocation.get l = 0 := by
    rw [ha]
    exact PerLane.get_replicate 0 l
  unfold admitLane
  rw [runOn_bind_of_ok (runOn_get j)]
  dsimp only
  rw [hheld, if_neg (by omega), Nat.sub_zero, runOn_bind_of_ok (runOn_onAllocator _ j), ha, hreq]
  rfl

theorem runOn_releaseLane (l : Lane) (j : Junction) :
    (releaseLane l).runOn j = (.ok (), { j with
      allocator := (j.allocator.release l).2
      lanes := j.lanes.set l ((j.lanes.get l).setQuadrants 0 0) }) := rfl

/-! ## Serving a lane -/

namespace Approach

theorem closed_setQuadrants (a : Approach) (allocated requested : Nat) :
    (a.setQuadrants allocated requested).closed = a.closed.setQuadrants allocated requested := by
  show (if a.state = .running ∧ a.queueLength = 0 then (a.enter .waiting).setQuadrants allocated requested
    else a.setQuadrants allocated requested) = _
  unfold closed
  split <;> rfl

/-- The lane after it was let cross from a moment on, with so many vehicles. -/
def crossed (a : Approach) (startMs n : Nat) : Approach := (a.opened startMs n).closed.setQuadrants 0 0

theorem crossed_traffic (a : Approach) (startMs n : Nat) : (a.crossed startMs n).traffic = a.traffic.serve n :=
  closed_traffic (a.opened startMs n)

theorem crossed_queueLength (a : Approach) (startMs n : Nat) :
    (a.crossed startMs n).queueLength = a.queueLength - n :=
  congrArg LaneTraffic.queueLength (a.crossed_traffic startMs n)

theorem crossed_state (h : a.state = .running) (startMs n : Nat) :
    (a.crossed startMs n).state = if a.queueLength - n = 0 then .waiting else .running :=
  closed_state (a := a.opened startMs n) h

theorem crossed_lastServiceMs (a : Approach) (startMs n : Nat) :
    (a.crossed startMs n).lastServiceMs = if 0 < n then some startMs else a.lastServiceMs :=
  closed_lastServiceMs (a.opened startMs n)

theorem crossed_priority (a : Approach) (startMs n : Nat) : (a.crossed startMs n).priority = a.priority :=
  closed_priority (a.opened startMs n)

end Approach

def Junction.served (j : Junction) (l : Lane) : Junction :=
  { (j.sliced l).completed l with lanes := j.lanes.set l ((j.lanes.get l).crossed j.clock (j.batch l)) }

theorem batch_holding (j : Junction) (l : Lane) (allocator : Allocator) (n : Nat) :
    (j.holding l allocator n).batch l = j.batch l := by
  rw [batch, holding, PerLane.get_set_self]
  rfl

theorem sliced_holding (j : Junction) (l : Lane) (allocator : Allocator) (n : Nat) :
    (j.holding l allocator n).sliced l = { j.sliced l with
      allocator := allocator
      lanes := j.lanes.set l (((j.lanes.get l).opened j.clock (j.batch l)).closed.setQuadrants n 0) } := by
  have hlane : (j.holding l allocator n).lanes.get l = (j.lanes.get l).setQuadrants n 0 := PerLane.get_set_self _ _ _
  rw [sliced, sliceRecord, batch_holding, hlane, ← Approach.closed_setQuadrants, holding]
  dsimp only
  rw [PerLane.set_set]
  rfl

/-- **A running lane gets its quadrants, has its slice, and gives them back.** -/
theorem runOn_serveLane (ha : j.allocator = {}) (hpos : 1 ≤ j.config.quadrantsPerCrossing)
    (hle : j.config.quadrantsPerCrossing ≤ totalQuadrants) (hr : j.Runs l) (hc : (j.lanes.get l).traffic.Cached) :
    (serveLane l).runOn j = (.ok (some (j.sliceRecord l), false), j.served l) := by
  let n := j.config.quadrantsPerCrossing
  let i : Junction := j.holding l (({} : Allocator).grant l n) n
  have hlane : i.lanes.get l = (j.lanes.get l).setQuadrants n 0 := PerLane.get_set_self _ _ _
  have hslice : (executeSlice l).runOn i = (.ok (some (i.sliceRecord l)), i.sliced l) := by
    refine runOn_executeSlice ?_ ?_
    · rw [Runs, hlane]
      exact hr
    · rw [hlane]
      exact hc
  unfold serveLane
  rw [runOn_bind_of_ok (runOn_admitLane ha hpos hle l), if_pos rfl]
  rw [runOn_bind_of_ok hslice, completeServed, Option.isSome_some, if_pos rfl, discard_eq, bind_assoc,
    runOn_bind_of_ok (runOn_completeEmergency l _), pure_bind, runOn_bind_of_ok (runOn_releaseLane l _), runOn_pure,
    sliceRecord, batch_holding, sliced_holding]
  have hgiven : ((({} : Allocator).grant l n).release l).2 = j.allocator :=
    (Allocator.release_grant_fresh l n).trans ha.symm
  rw [completed]
  dsimp only
  rw [hgiven, PerLane.get_set_self, PerLane.set_set]
  rfl

end Crossroads
