import Crossroads.Proofs.Exclusion.Crew
import Crossroads.Proofs.Steps.Pass
/-!
# Abandoned switches

A switch takes its source out of the crossing before it looks at its target.  If the target is no longer ready then, the
switch is abandoned, but the source stays out: no lane runs, whatever the other threads do in between
(`Routine.handOver_abandons`), and the pass answers all the same that its source keeps the crossing
(`switch_abandoned`).  Other lanes and the counts of switches are as they were.
-/
namespace Crossroads

open Act Junction

variable {j i : Junction} {l target : Lane} {source : Option Lane}

/-! ## One thread -/

/-- What an abandoned switch leaves: its source is out of the crossing, and no lane is current. -/
def Junction.abandoned (j : Junction) (source : Option Lane) (target : Lane) : Junction :=
  { j with
    lanes := .ofFn fun l => if source = some l ∧ l ≠ target then (j.lanes.get l).stepAside else j.lanes.get l
    scheduler := { j.scheduler with current := none } }

theorem runOn_takeOver_abandoned (h : (j.lanes.get target).state ≠ .ready) :
    (takeOver target false).runOn j = (.ok false, { j with scheduler := { j.scheduler with current := none } }) := by
  have hpromote : (promote target false).runOn j = (.ok false, j) := by
    unfold promote
    rw [if_neg Bool.false_ne_true, runOn_bind_of_ok (runOn_get j), if_neg h]
    rfl
  unfold takeOver
  rw [runOn_bind_of_ok hpromote]
  rfl

/-- **A switch to a lane that is not ready is abandoned.** -/
theorem runOn_contextSwitch_abandoned (h : (j.lanes.get target).state ≠ .ready) (source : Option Lane) :
    (contextSwitch source target false).runOn j = (.ok false, j.abandoned source target) := by
  rw [contextSwitch_eq]
  cases hs : source.filter (· ≠ target) with
  | none =>
    have hlanes : (j.abandoned source target).lanes = j.lanes := PerLane.ext_get fun l => by
      rw [abandoned, PerLane.get_ofFn, if_neg]
      rintro ⟨rfl, hne⟩
      rw [Option.filter_some, if_pos (decide_eq_true hne)] at hs
      cases hs
    refine (runOn_takeOver_abandoned h).trans ?_
    rw [← hlanes]
    rfl
  | some l =>
    obtain ⟨rfl, hne⟩ := Option.filter_eq_some_iff.1 hs
    have hne : l ≠ target := of_decide_eq_true hne
    have hlanes : (j.abandoned (some l) target).lanes = j.lanes.set l (j.lanes.get l).stepAside :=
      PerLane.ext_get fun m => by
        rw [abandoned, PerLane.get_ofFn, PerLane.get_set]
        by_cases hm : m = l
        · rw [hm, if_pos ⟨rfl, hne⟩, if_pos rfl]
        · rw [if_neg fun h => hm (Option.some.inj h.1).symm, if_neg hm]
    have htarget : ((j.lanes.set l (j.lanes.get l).stepAside).get target).state ≠ .ready := by
      rwa [PerLane.get_set_of_ne _ _ hne.symm]
    refine (runOn_bind_of_ok (runOn_demote_eq l j)).trans ((runOn_takeOver_abandoned htarget).trans ?_)
    rw [← hlanes]
    rfl

namespace Junction

theorem abandoned_get_source (h : source = some l) (hne : l ≠ target) :
    (j.abandoned source target).lanes.get l = (j.lanes.get l).stepAside := by
  rw [abandoned, PerLane.get_ofFn, if_pos ⟨h, hne⟩]

/-- An abandoned switch leaves the lanes as they were just if its source did not run, or was the target. -/
theorem abandoned_states_iff : (∀ l, ((j.abandoned source target).lanes.get l).state = (j.lanes.get l).state) ↔
    ∀ l, source = some l → j.Runs l → l = target := by
  constructor
  · intro h l hl hr
    by_contra hne
    have hstate := h l
    rw [abandoned_get_source hl hne, hr] at hstate
    exact Approach.stepAside_state_ne _ hstate
  · intro h l
    rw [abandoned, PerLane.get_ofFn]
    split
    · rename_i hl
      rw [Approach.stepAside_of_ne fun hr => hl.2 (h l hl.1 hr)]
    · rfl

theorem Exclusive.runningLanes_abandoned (he : j.Exclusive) (hr : j.Runs l) (hne : l ≠ target) :
    (j.abandoned (some l) target).runningLanes = [] := by
  refine List.filter_eq_nil_iff.2 fun m _ hm => ?_
  have hm : ((j.abandoned (some l) target).lanes.get m).state = .running := of_decide_eq_true hm
  rw [abandoned, PerLane.get_ofFn] at hm
  split at hm
  · exact Approach.stepAside_state_ne _ hm
  · rename_i hother
    obtain rfl := he.one m l hm hr
    exact hother ⟨rfl, hne⟩

end Junction

/-- **An abandoned switch takes its source out of the crossing.** It counts as no switch, and all lanes are as they were
if its source did not run; else no lane runs afterwards, and the pass answers that the source keeps the crossing. -/
theorem switch_abandoned (he : j.Exclusive) (h : (j.lanes.get target).state ≠ .ready) (source : Option Lane) :
    ∃ i, (contextSwitch source target false).runOn j = (.ok false, i) ∧
      i = { j with lanes := i.lanes, scheduler := { j.scheduler with current := none } } ∧
      (∀ l, source ≠ some l → i.lanes.get l = j.lanes.get l) ∧
      ((∀ l, (i.lanes.get l).state = (j.lanes.get l).state) ↔ ∀ l, source = some l → j.Runs l → l = target) ∧
      ∀ l, source = some l → j.Runs l → l ≠ target →
        i.runningLanes = [] ∧ (handOver (some l) target).runOn j = (.ok (.keep l), i) := by
  refine ⟨j.abandoned source target, runOn_contextSwitch_abandoned h source, rfl, fun l hl => ?_, abandoned_states_iff,
    ?_⟩
  · rw [abandoned, PerLane.get_ofFn, if_neg fun hl' => hl hl'.1]
  · rintro l rfl hr hne
    refine ⟨he.runningLanes_abandoned hr hne, ?_⟩
    unfold handOver
    rw [runOn_bind_of_ok (runOn_get j)]
    exact runOn_bind_of_ok (runOn_contextSwitch_abandoned h (some l))

/-- The north runs and the south has no vehicles: a switch from one to the other empties the crossing. -/
theorem switch_abandoned_north : ∃ j i : Junction, j.runningLanes = [.north] ∧
    (contextSwitch (some .north) .south false).runOn j = (.ok false, i) ∧ i.runningLanes = [] ∧
      (handOver (some .north) .south).runOn j = (.ok (.keep .north), i) := by
  let j₀ : Junction := Blueprint.assemble { config := {} } {} 0
  let j₁ := Operation.next j₀ (.enqueueNow .north 1)
  have hbuilt : j₀.Reachable (fun op => ∀ l s, op ≠ .setState l s) := .built (b := { config := {} }) rfl
  have harrived : Reachable _ j₁ := hbuilt.next fun _ _ => nofun
  have hserved : Reachable _ (Operation.next j₁ .schedule) := harrived.next fun _ _ => nofun
  obtain ⟨he, -⟩ := hserved.inOrder
  have hwaits : ((Operation.next j₁ .schedule).lanes.get .south).state ≠ .ready := by decide +kernel
  obtain ⟨i, hrun, -, -, -, hleft⟩ := switch_abandoned he hwaits (some .north)
  obtain ⟨hnone, hkeep⟩ := hleft .north rfl (by decide +kernel) nofun
  exact ⟨_, i, by decide +kernel, hrun, hnone, hkeep⟩

/-! ## Whatever other threads do -/

/-- **A pass that gives up its switch leaves no lane running**, whatever other threads do in between. -/
theorem Routine.handOver_abandons {running : Option Lane} (hne : running ≠ some target) :
    Triple (Runners (fun l => running = some l)) (handOver running target) [.scheduler]
      (fun d j => d.isSwitch = false → ∀ l, ¬ j.Runs l) :=
  (handOver_triple hne).conseq (fun _ hj => hj) fun _ _ h => h.empty

/-- **A pass answers that the north keeps the crossing, and has taken it out.** The pass saw the south ready; then a
thread took the last vehicle from there, and only the pass itself moved after that. -/
theorem Crew.keeps_no_lane : ∃ (c : Crew Bool) (moves : Nat), c.Reachable Operation.SideBySide ∧
    c.holder .scheduler = some false ∧ c.junction.runningLanes = [.north] ∧
    ((contextSwitch (some .north) .south false).runOn c.junction).1 = .ok false ∧
    (c.after (.replicate moves false)).answer false = some (.decision (.keep .north)) ∧
    (c.after (.replicate moves false)).junction.runningLanes = [] := by
  let b : Blueprint := { config := { initialPolicy := .srtf } }
  let c : Crew Bool := idle (b.assemble b.config 0)
    |>.carryOn true (.enqueueNow .north 1) 6 |>.carryOn true (.enqueueNow .north 2) 6
    |>.carryOn false .schedule 100
    |>.carryOn true (.enqueueNow .south 3) 6
    |>.carryOn false .schedule 42
    |>.carryOn true (.dequeue .south) 5 |>.carryOn true (.tickLane .south) 5
  have hc : c.Reachable Operation.SideBySide := by
    have hbuilt : (idle (b.assemble b.config 0) : Crew Bool).Reachable Operation.SideBySide := .built (b := b) rfl
    refine ((((((hbuilt.carryOn true ?_ 6).carryOn true ?_ 6).carryOn false ?_ 100).carryOn true ?_ 6).carryOn false ?_
      42).carryOn true ?_ 5).carryOn true ?_ 5
    all_goals exact ⟨fun _ _ => nofun, nofun⟩
  exact ⟨c, 12, hc, by decide +kernel, by decide +kernel, by decide +kernel, by decide +kernel, by decide +kernel⟩

end Crossroads
