import Crossroads.Operation
import Crossroads.Proofs.Exclusion.Running
/-!
# Sections without the scheduler's lock

A queue, a lane's own turn, a grant and a slice change lanes outside of passes.  Each such section takes lanes out of
the crossing at most, and what it refuses is no breach.
-/
namespace Crossroads

open Act Junction

variable {a b : Approach} {l : Lane} {v : Vehicle} {e : TrafficError}

/-! ## Changes of one lane -/

theorem Approach.mild_enqueue (a : Approach) (v : Vehicle) : a.Mild (a.enqueue v) := by
  cases h : a.enqueue v with
  | error e =>
    obtain ⟨-, rfl⟩ := enqueue_eq_error_iff.1 h
    exact rfl
  | ok b =>
    obtain ⟨-, rfl⟩ := enqueue_eq_ok_iff.1 h
    show (if a.state = .waiting then LaneState.ready else a.state) = .running → _
    split
    · exact nofun
    · exact id

/-- A lane's own turn asks for no change that the state machine rejects. -/
theorem Approach.mild_tick (a : Approach) (l : Lane) : a.Mild (a.tick l) := by
  rw [tick_eq]
  show a.turned.aged.state = .running → a.state = .running
  rw [aged_state, turned]
  split
  · exact nofun
  split
  · exact nofun
  · exact id

theorem Approach.mild_unblock (a : Approach) (l : Lane) : a.Mild (a.unblock l) := by
  unfold unblock
  split
  · rename_i h
    have hb : ({ a with requestedQuadrants := 0 } : Approach).state = .blocked := h
    show a.Mild (({ a with requestedQuadrants := 0 } : Approach).transition l _)
    rw [transition_yield l (.inr hb)]
    exact fun hr => absurd hr (yieldState_ne_running _)
  · exact id

theorem Approach.dequeue_state (h : a.dequeue = .ok (v, b)) : b.state = a.state := by
  obtain ⟨vs, -, rfl⟩ := dequeue_eq_ok_iff.1 h
  rfl

/-! ## Requests -/

theorem Allocator.harmless_requestQuadrants (q : Allocator) (l : Lane) (count : Nat) :
    Harmless (q.requestQuadrants l count).1 := by
  unfold requestQuadrants
  split
  · exact rfl
  split
  · exact rfl
  split
  · exact rfl
  split
  · exact trivial
  · exact rfl

theorem Allocator.harmless_retry (q : Allocator) (l : Lane) (pending : Nat) : Harmless (q.retry l pending).1 := by
  unfold retry
  split
  · exact trivial
  · have h := q.harmless_requestQuadrants l pending
    rcases hr : q.requestQuadrants l pending with ⟨e | n, q'⟩
    · rw [hr] at h
      exact h
    · exact trivial

theorem Lane.harmless_ofIndex (n : Nat) : Harmless (Lane.ofIndex n) := by
  unfold ofIndex
  cases ofIndex? n with
  | some l => exact trivial
  | none => exact rfl

namespace Act.Yielding

/-! ## Queues and turns -/

theorem enqueueVehicle (l : Lane) (v : Vehicle) : (enqueueVehicle l v).Yielding (fun _ => True) :=
  .bind (.tryOnLane l fun a => a.mild_enqueue v) fun _ _ => .look _ fun _ => trivial

theorem tickLane (l : Lane) : (tickLane l).Yielding (fun _ => True) :=
  .bind (.tryOnLane l fun a => a.mild_tick l) fun _ _ => .look _ fun _ => trivial

theorem dequeueVehicle (l : Lane) : (dequeueVehicle l).Yielding (fun _ => True) := by
  have hrun : ∀ j : Junction, (∃ f, (Crossroads.dequeueVehicle l).runOn j = (.error f, j) ∧ f.isBreach = false) ∨
      ∃ v i, (Crossroads.dequeueVehicle l).runOn j = (.ok v, i) ∧ j.Yields i := by
    intro j
    unfold Crossroads.dequeueVehicle
    rw [runOn_bind_of_ok (runOn_get j)]
    cases hq : (j.lanes.get l).dequeue with
    | error e =>
      obtain ⟨-, rfl⟩ := Approach.dequeue_eq_error_iff.1 hq
      exact .inl ⟨_, rfl, rfl⟩
    | ok p => exact .inr ⟨p.1, _, rfl, .set_lane fun h => (Approach.dequeue_state hq).symm.trans h⟩
  refine ⟨fun j => ?_, fun {j f} hf => ?_, fun _ => trivial⟩
  · rcases hrun j with ⟨f, h, -⟩ | ⟨v, i, h, y⟩
    · rw [h]
      exact .refl j
    · rw [h]
      exact y
  · rcases hrun j with ⟨g, h, hg⟩ | ⟨v, i, h, -⟩
    · rw [h] at hf
      cases hf
      exact hg
    · rw [h] at hf
      cases hf

theorem offerVehicle (l : Lane) (v : Vehicle) : (offerVehicle l v).Yielding Harmless := by
  refine .of_ok fun j => ?_
  have hm := (j.lanes.get l).mild_enqueue v
  unfold Crossroads.offerVehicle
  rw [runOn_bind_of_ok (runOn_get j)]
  cases hq : (j.lanes.get l).enqueue v with
  | error e =>
    rw [hq] at hm
    exact ⟨.error e, j, rfl, .refl j, hm⟩
  | ok b =>
    rw [hq] at hm
    exact ⟨.ok (), _, rfl, .set_lane hm, trivial⟩

/-! ## Quadrants -/

theorem setQuadrants (l : Lane) (allocated requested : Nat) :
    (Act.onLane l (fun a => a.setQuadrants allocated requested)).Yielding (fun _ => True) := .onLane l fun _ h => h

theorem blockOn (l : Lane) (requested : Nat) : (Act.onLane l (fun a => a.blockOn requested)).Yielding (fun _ => True) :=
  .onLane l fun _ h => by cases h

theorem unblock (l : Lane) : (Act.tryOnLane l (fun a => a.unblock l)).Yielding (fun _ => True) :=
  .tryOnLane l fun a => a.mild_unblock l

theorem standDown (l : Lane) : (standDown l).Yielding (fun _ => True) := by
  refine .of_ok fun j => ⟨(), _, runOn_standDown l j, .set_lane fun h => ?_, trivial⟩
  split at h
  · cases h
  · exact h

/-! ## Slices and time -/

theorem sleep (ms : Nat) : (sleep ms).Yielding (fun _ => True) := by
  refine .of_ok fun j => ⟨_, _, rfl, ?_, trivial⟩
  split
  · exact .refl j
  · exact .of_eq rfl rfl rfl

theorem crossBatch (served : Nat) : (crossBatch served).Yielding (fun _ => True) := by
  unfold Crossroads.crossBatch
  split
  · exact .bind (.look _ fun _ => trivial) fun _ _ => .discard (sleep _)
  · exact .pure trivial

theorem payOverhead (d : Decision) : (payOverhead d).Yielding (fun _ => True) := by
  unfold Crossroads.payOverhead
  split
  · exact .bind (.look _ fun _ => trivial) fun _ _ => .discard (sleep _)
  · exact .pure trivial

theorem openSlice (l : Lane) (startMs : Nat) : (openSlice l startMs).Yielding (fun _ => True) := by
  refine .of_ok fun j => ?_
  unfold Crossroads.openSlice
  rw [runOn_bind_of_ok (runOn_get j)]
  by_cases h : (j.lanes.get l).state = .running
  · rw [if_pos h]
    exact ⟨_, _, rfl, (Yields.set_lane fun _ => h).trans (.of_eq rfl rfl rfl), trivial⟩
  · rw [if_neg h]
    exact ⟨_, _, rfl, .refl j, trivial⟩

theorem closeSlice (l : Lane) (startMs endMs : Nat) : (closeSlice l startMs endMs).Yielding (fun _ => True) := by
  refine .of_ok fun j => ?_
  unfold Crossroads.closeSlice
  rw [runOn_bind_of_ok (runOn_get j)]
  by_cases h : (j.lanes.get l).state = .running ∧ (j.lanes.get l).queueLength = 0
  · have hrun : (j.lanes.get l).transition l .waiting = .ok ((j.lanes.get l).enter .waiting) := by
      rw [Approach.transition, h.1, h.2]
      rfl
    rw [if_pos h, runOn_bind_of_ok (by rw [runOn_tryOnLane, hrun])]
    exact ⟨(), _, rfl, (Yields.set_lane fun _ => h.1).trans (.of_eq rfl rfl rfl), trivial⟩
  · rw [if_neg h]
    exact ⟨(), _, rfl, .of_eq rfl rfl rfl, trivial⟩

end Act.Yielding
end Crossroads
