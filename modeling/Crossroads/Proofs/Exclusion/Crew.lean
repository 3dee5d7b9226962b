import Crossroads.Crew
import Crossroads.Proofs.Exclusion.Operations
/-!
# Mutual exclusion in crews

The invariant of a crew (`Crew.Sound`): no two lanes run, the junction is linked whenever nobody holds the scheduler's
lock, and each thread at work is safe.  A section of a thread without that lock yields, which leaves the others safe;
one of the thread that holds it cannot harm the others, who count on nothing.
-/
namespace Crossroads

open Act Junction

/-- What a thread at work has left is safe, and it gives the scheduler's lock back. -/
def Task.Safe (t : Task) (j : Junction) : Prop := t.rest.Safe (fun _ held _ => .scheduler ∉ held) t.held j

namespace Task.Safe

variable {t : Task} {i j : Junction}

theorem yields (h : t.Safe j) (y : j.Yields i) : t.Safe i := Routine.Safe.yields (fun _ _ => .const) h y

theorem of_not_mem (hs : .scheduler ∉ t.held) (h : t.Safe j) : t.Safe i :=
  Routine.Safe.of_not_mem (fun _ _ _ _ hs _ => hs) hs h

theorem start {op : Operation} (h : op.SideBySide) : Task.Safe ⟨op.routine, []⟩ j :=
  (Operation.routine_free h j trivial).mono fun _ _ _ hq => hq.1 ▸ List.not_mem_nil

end Task.Safe

namespace Crew

variable {ι : Type} [DecidableEq ι] {c c' : Crew ι} {i k : ι} {t : Task} {allowed : Operation → Prop}

structure Sound (c : Crew ι) : Prop where
  exclusive : c.junction.Exclusive
  linked : c.holder .scheduler = none → c.junction.Linked
  guards : ∀ i, (c.held i).count .scheduler = if c.holder .scheduler = some i then 1 else 0
  safe : ∀ i t, c.task i = some t → t.Safe c.junction

namespace Sound

theorem mem_iff (s : c.Sound) (h : c.task i = some t) : .scheduler ∈ t.held ↔ c.holder .scheduler = some i := by
  rw [← c.held_of_task h, ← List.count_pos_iff, s.guards i]
  split
  · rename_i hi
    exact iff_of_true Nat.one_pos hi
  · rename_i hi
    exact iff_of_false (Nat.lt_irrefl 0) hi

/-- One thread moves: the others count on nothing if it holds the scheduler's lock, and else it yields. -/
theorem move (s : c.Sound) (htask : ∀ k, k ≠ i → c'.task k = c.task k)
    (hholder : ∀ k, k ≠ i → (c'.holder .scheduler = some k ↔ c.holder .scheduler = some k))
    (hy : c.holder .scheduler ≠ some i → c.junction.Yields c'.junction) (he : c'.junction.Exclusive)
    (hl : c'.holder .scheduler = none → c'.junction.Linked)
    (hg : (c'.held i).count .scheduler = if c'.holder .scheduler = some i then 1 else 0)
    (hs : ∀ t, c'.task i = some t → t.Safe c'.junction) : c'.Sound where
  exclusive := he
  linked := hl
  guards k := by
    by_cases hk : k = i
    · rw [hk]
      exact hg
    · rw [held, htask k hk, ← held, s.guards k]
      exact if_congr (hholder k hk).symm rfl rfl
  safe k t ht := by
    by_cases hk : k = i
    · exact hs t (hk ▸ ht)
    · rw [htask k hk] at ht
      by_cases hi : c.holder .scheduler = some i
      · have hne : c.holder .scheduler ≠ some k := fun h => hk (Option.some.inj (h.symm.trans hi))
        exact (s.safe k t ht).of_not_mem fun hm => hne ((s.mem_iff ht).1 hm)
      · exact (s.safe k t ht).yields (hy hi)

theorem stay (s : c.Sound) (htask : ∀ k, k ≠ i → c'.task k = c.task k)
    (hholder : c'.holder .scheduler = c.holder .scheduler)
    (hy : c.holder .scheduler ≠ some i → c.junction.Yields c'.junction) (he : c'.junction.Exclusive)
    (hg : (c'.held i).count .scheduler = (c.held i).count .scheduler)
    (hs : ∀ t, c'.task i = some t → t.Safe c'.junction) : c'.Sound := by
  refine s.move htask (fun k _ => by rw [hholder]) hy he (fun hn => ?_) ?_ hs
  · rw [hholder] at hn
    have hne : c.holder .scheduler ≠ some i := fun h => by
      rw [hn] at h
      cases h
    exact (s.linked hn).yields (hy hne)
  · rw [hg, hholder]
    exact s.guards i

theorem goOn (s : c.Sound) (htask : c'.task = c.task) (hholder : c'.holder .scheduler = c.holder .scheduler)
    (hy : c.holder .scheduler ≠ some i → c.junction.Yields c'.junction) (he : c'.junction.Exclusive)
    (hg : t.held.count .scheduler = (c.held i).count .scheduler) (hs : t.Safe c'.junction) :
    (c'.setTask i (some t)).Sound := by
  refine s.stay (fun k hk => ?_) hholder hy he ?_ fun u hu => ?_
  · rw [task_setTask_of_ne _ _ hk, htask]
  · rw [held_setTask_self]
    exact hg
  · rw [task_setTask_self] at hu
    exact Option.some.inj hu ▸ hs

theorem leave {j : Junction} (s : c.Sound) (ht : c.task i = some t) (hs : .scheduler ∉ t.held)
    (hy : c.junction.Yields j) : ((c.setJunction j).leave i).Sound := by
  have hne : c.holder .scheduler ≠ some i := fun h => hs ((s.mem_iff ht).2 h)
  refine s.stay (fun k hk => task_leave_of_ne _ hk) (holder_leave _ hne) (fun _ => hy) (s.exclusive.yields hy) ?_
    fun u hu => ?_
  · rw [c.held_of_task ht, List.count_eq_zero_of_not_mem hs, held, task_leave_self]
    rfl
  · rw [task_leave_self] at hu
    cases hu

theorem perform {β : Type} {act : Act β} {next : β → Routine Reply} {held : HeldLayers} {b : β} {j : Junction}
    (s : c.Sound) (ht : c.task i = some ⟨.perform act next, held⟩) (hrun : act.runOn c.junction = (.ok b, j)) :
    ((c.setJunction j).setTask i (some ⟨next b, held⟩)).Sound := by
  have hsafe := s.safe i _ ht
  have hmem := s.mem_iff ht
  have hheld : held.count .scheduler = (c.held i).count .scheduler := by rw [c.held_of_task ht]
  by_cases hi : c.holder .scheduler = some i
  · obtain ⟨b', j', hrun', hex, hnext⟩ := hsafe.2 (hmem.2 hi) c.junction (.refl _) s.exclusive
    rw [hrun] at hrun'
    cases hrun'
    exact s.goOn rfl rfl (fun h => absurd hi h) hex hheld hnext
  · have hy := hsafe.1 fun hm => hi (hmem.1 hm)
    have hyields : c.junction.Yields j := by
      have h := hy.yields c.junction
      rwa [hrun] at h
    exact s.goOn rfl rfl (fun _ => hyields) (s.exclusive.yields hyields) hheld (hy.answer (by rw [hrun]) j)

theorem ask {lock : Lock} {next : Routine Reply} {held : HeldLayers} {j : Junction} (s : c.Sound)
    (ht : c.task i = some ⟨.ask lock next, held⟩) (hrun : (checkLayer held lock.layer).runOn c.junction = (.ok (), j)) :
    ((c.setJunction j).setTask i (some ⟨next, held⟩)).Sound := by
  have hsafe := s.safe i _ ht
  rw [checkLayer_eq_pure hsafe.1] at hrun
  cases hrun
  exact s.goOn rfl rfl (fun _ => .refl _) s.exclusive (by rw [c.held_of_task ht]) hsafe.2

theorem pass {h : Option ι} (s : c.Sound)
    (hother : ∀ k, k ≠ i → (h = some k ↔ c.holder .scheduler = some k)) (hl : h = none → c.junction.Linked)
    (hg : t.held.count .scheduler = if h = some i then 1 else 0) (hs : t.Safe c.junction) :
    ((c.setHolder .scheduler h).setTask i (some t)).Sound := by
  have hholder : ((c.setHolder .scheduler h).setTask i (some t)).holder .scheduler = h := by
    rw [holder_setTask, holder_setHolder_self]
  refine s.move (fun k hk => task_setTask_of_ne _ _ hk) (fun k hk => ?_) (fun _ => .refl _) s.exclusive (fun hn => ?_)
    ?_ fun u hu => ?_
  · rw [hholder]
    exact hother k hk
  · rw [hholder] at hn
    exact hl hn
  · rw [hholder, held_setTask_self]
    exact hg
  · rw [task_setTask_self] at hu
    exact Option.some.inj hu ▸ hs

/-- Taking the scheduler's lock, a thread finds a linked junction. -/
theorem take {lock : Lock} {next : Routine Reply} {held : HeldLayers} (s : c.Sound)
    (ht : c.task i = some ⟨.take lock next, held⟩) (hfree : c.holder lock = none) :
    ((c.setHolder lock (some i)).setTask i (some ⟨next, held.acquire lock.layer⟩)).Sound := by
  have hsafe := s.safe i _ ht
  have hg := s.guards i
  rw [c.held_of_task ht] at hg
  by_cases hl : lock = .scheduler
  · rw [hl] at hfree hsafe ⊢
    rw [hfree, if_neg nofun] at hg
    have hcount : (held.acquire .scheduler).count .scheduler = 1 := by rw [HeldLayers.count_acquire, if_pos rfl, hg]
    refine s.pass (fun k hk => ?_) nofun ?_ ((hsafe.2 rfl).2 c.junction (s.linked hfree))
    · rw [hfree]
      exact iff_of_false (fun h => hk (Option.some.inj h).symm) nofun
    · rw [if_pos rfl]
      exact hcount
  · have hcount : (held.acquire lock.layer).count .scheduler = held.count .scheduler := by
      rw [HeldLayers.count_acquire, if_neg (Lock.layer_ne_scheduler hl), Nat.add_zero]
    refine s.goOn rfl (holder_setHolder_of_ne _ _ (Ne.symm hl)) (fun _ => .refl _) s.exclusive ?_ (hsafe.1 hl)
    rw [c.held_of_task ht]
    exact hcount

/-- Dropping the scheduler's lock, a thread leaves a linked junction. -/
theorem drop {lock : Lock} {next : Routine Reply} {held : HeldLayers} (s : c.Sound)
    (ht : c.task i = some ⟨.drop lock next, held⟩) :
    ((c.setHolder lock none).setTask i (some ⟨next, held.letGo lock.layer⟩)).Sound := by
  have hsafe := s.safe i _ ht
  have hg := s.guards i
  rw [c.held_of_task ht] at hg
  by_cases hl : lock = .scheduler
  · rw [hl] at hsafe ⊢
    obtain ⟨hmem, hlinked⟩ := hsafe.1 rfl
    have hi : c.holder .scheduler = some i := (s.mem_iff ht).1 hmem
    rw [hi, if_pos rfl] at hg
    have hcount : (held.letGo .scheduler).count .scheduler = 0 := by rw [HeldLayers.count_letGo, if_pos rfl, hg]
    refine s.pass (fun k hk => ?_) (fun _ => hlinked) ?_ hsafe.2
    · rw [hi]
      exact iff_of_false nofun fun h => hk (Option.some.inj h).symm
    · rw [if_neg nofun]
      exact hcount
  · have hcount : (held.letGo lock.layer).count .scheduler = held.count .scheduler := by
      rw [HeldLayers.count_letGo, if_neg (Lock.layer_ne_scheduler hl)]
    refine s.goOn rfl (holder_setHolder_of_ne _ _ (Ne.symm hl)) (fun _ => .refl _) s.exclusive ?_ hsafe.2
    rw [c.held_of_task ht]
    exact hcount

/-- A section that fails is none of a thread with the scheduler's lock, and fails with no breach. -/
theorem of_fails {f : Fault} {j : Junction} (s : c.Sound) (h : c.Fails i f j) :
    ∃ t, c.task i = some t ∧ .scheduler ∉ t.held ∧ c.junction.Yields j ∧ f.isBreach = false := by
  cases h with
  | @perform _ _ _ held ht hrun =>
    have hsafe := s.safe i _ ht
    by_cases hm : .scheduler ∈ held
    · obtain ⟨b, j', hrun', -⟩ := hsafe.2 hm c.junction (.refl _) s.exclusive
      rw [hrun] at hrun'
      cases hrun'
    · have hy := hsafe.1 hm
      have hyields := hy.yields c.junction
      rw [hrun] at hyields
      exact ⟨_, ht, hm, hyields, hy.fault (by rw [hrun])⟩
  | ask ht hrun =>
    rw [checkLayer_eq_pure (s.safe i _ ht).1] at hrun
    cases hrun

/-- **Every step keeps a crew sound.** -/
theorem step (s : c.Sound) (h : Step Operation.SideBySide c c') : c'.Sound := by
  cases h with
  | start ht hop =>
    refine s.goOn rfl rfl (fun _ => .refl _) s.exclusive ?_ (.start hop)
    rw [held, ht]
    rfl
  | perform ht hrun => exact s.perform ht hrun
  | ask ht hrun => exact s.ask ht hrun
  | take ht hfree => exact s.take ht hfree
  | drop ht => exact s.drop ht
  | finish ht => exact s.leave ht (s.safe _ _ ht) (.refl _)
  | fail hf =>
    obtain ⟨t, ht, hs, hy, -⟩ := s.of_fails hf
    exact s.leave ht hs hy

theorem idle {b : Blueprint} {now : Nat} {j : Junction} (h : b.build now = .ok j) : (idle j : Crew ι).Sound where
  exclusive := Blueprint.exclusive_build h
  linked _ := Blueprint.linked_build h
  guards _ := rfl
  safe _ _ ht := by cases ht

end Sound

theorem Reachable.sound (h : c.Reachable Operation.SideBySide) : c.Sound := by
  induction h with
  | built hb => exact .idle hb
  | step _ hs s => exact s.step hs

/-- **Mutual exclusion in crews.** Whatever threads do side by side, and in whichever order their sections come, at most
one lane runs in between, no violation is counted, and no section fails with a broken invariant or a rejected change of
a lane's state. -/
theorem mutualExclusion_interleaved (h : c.Reachable Operation.SideBySide) :
    c.junction.runningLanes.length ≤ 1 ∧ c.junction.monitor.count = 0 ∧
      ∀ i f j, c.Fails i f j → f.isBreach = false := by
  refine ⟨h.sound.exclusive.length_runningLanes, h.sound.exclusive.count, fun i f j hf => ?_⟩
  obtain ⟨-, -, -, -, hb⟩ := h.sound.of_fails hf
  exact hb

/-- One thread has switched from the north to the south, but not yet noted it, and another waits for what it let cross
from the north. -/
theorem mutualExclusion_interleaved_pair : ∃ c : Crew Bool, c.Reachable Operation.SideBySide ∧
    c.holder .scheduler = some false ∧ c.holder (.lane .south) = some false ∧ (c.task true).isSome ∧
    c.junction.runningLanes = [.south] ∧ c.junction.scheduler.current = some .north ∧
    c.junction.runningLanes.length ≤ 1 ∧ c.junction.monitor.count = 0 ∧
    ∀ i f j, c.Fails i f j → f.isBreach = false := by
  let b : Blueprint := { config := { initialPolicy := .srtf, batchSize := 1 } }
  let c : Crew Bool := idle (b.assemble b.config 0)
    |>.carryOn true (.enqueueNow .north 1) 6 |>.carryOn true (.enqueueNow .north 2) 6
    |>.carryOn true (.enqueueNow .north 3) 6
    |>.carryOn false .schedule 100
    |>.carryOn true (.enqueueNow .south 4) 6
    |>.carryOn true (.slice .north) 7
    |>.carryOn false .schedule 51
  have hc : c.Reachable Operation.SideBySide := by
    have hbuilt : (idle (b.assemble b.config 0) : Crew Bool).Reachable Operation.SideBySide := .built (b := b) rfl
    refine ((((((hbuilt.carryOn true ?_ 6).carryOn true ?_ 6).carryOn true ?_ 6).carryOn false ?_ 100).carryOn true ?_
      6).carryOn true ?_ 7).carryOn false ?_ 51
    all_goals exact ⟨fun _ _ => nofun, nofun⟩
  obtain ⟨hone, hcount, hfails⟩ := mutualExclusion_interleaved hc
  exact ⟨c, hc, by decide +kernel, by decide +kernel, by decide +kernel, by decide +kernel, by decide +kernel,
    hone, hcount, hfails⟩

end Crew
end Crossroads
