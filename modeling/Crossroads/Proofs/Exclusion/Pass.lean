import Crossroads.Routine.Pass
import Crossroads.Proofs.Exclusion.Safe
/-!
# Passes keep the junction linked

A pass starts from a linked junction.  After the switch's first half no lane runs, after its second half only the target
does, and the pass ends with the target as the current lane (`scheduleNext_free`).
-/
namespace Crossroads

open Act Junction

variable {j : Junction} {l m target : Lane} {R : Lane → Prop}

/-! ## The halves of a switch -/

theorem runOn_demote (j : Junction) (l : Lane) :
    ∃ i, (demote l).runOn j = (.ok (), i) ∧ j.Yields i ∧ ¬ i.Runs l := by
  unfold demote
  rw [runOn_bind_of_ok (runOn_get j)]
  by_cases h : (j.lanes.get l).state = .running
  · rw [if_pos h, runOn_tryOnLane, Approach.transition_yield l (.inl h)]
    refine ⟨_, rfl, .set_lane fun _ => h, ?_⟩
    show ((j.lanes.set l _).get l).state ≠ .running
    rw [PerLane.get_set_self]
    exact Approach.yieldState_ne_running _
  · rw [if_neg h]
    exact ⟨j, rfl, .refl j, h⟩

theorem runOn_promote (j : Junction) (target : Lane) (forced : Bool) :
    ∃ there i, (promote target forced).runOn j = (.ok there, i) ∧ i.monitor = j.monitor ∧
      (∀ l, i.Runs l → j.Runs l ∨ there = true ∧ l = target) := by
  have hset : ∀ a : Approach, ∀ l, ({ j with lanes := j.lanes.set target a } : Junction).Runs l →
      j.Runs l ∨ true = true ∧ l = target := by
    intro a l hl
    by_cases e : l = target
    · exact .inr ⟨rfl, e⟩
    · rw [Runs, PerLane.get_set_of_ne _ _ e] at hl
      exact .inl hl
  unfold promote
  cases forced with
  | true =>
    rw [if_pos rfl, runOn_bind_of_ok (runOn_onLane ..)]
    exact ⟨true, _, rfl, rfl, hset _⟩
  | false =>
    rw [if_neg Bool.false_ne_true, runOn_bind_of_ok (runOn_get j)]
    by_cases h : (j.lanes.get target).state = .ready
    · have hrun : (j.lanes.get target).transition target .running = .ok ((j.lanes.get target).enter .running) := by
        rw [Approach.transition, h]
        rfl
      rw [if_pos h, runOn_bind_of_ok (by rw [runOn_tryOnLane, hrun])]
      exact ⟨true, _, rfl, rfl, hset _⟩
    · rw [if_neg h]
      exact ⟨false, j, rfl, rfl, fun l hl => .inl hl⟩

namespace Routine

/-! ## What yielding keeps -/

theorem Stable.runners : Stable (Runners R) := fun _ _ h y => h.yields y

theorem Stable.linked : Stable Linked := fun _ _ h y => h.yields y

theorem Stable.current {c : Option Lane} : Stable (fun j => j.scheduler.current = c) :=
  fun _ _ h y => y.current.trans h

theorem Stable.const {p : Prop} : Stable (fun _ => p) := fun _ _ h _ => h

theorem Stable.and {P S : Junction → Prop} (hP : Stable P) (hS : Stable S) : Stable (fun j => P j ∧ S j) :=
  fun j i h y => ⟨hP j i h.1 y, hS j i h.2 y⟩

namespace Triple

variable {α : Type} {P : Junction → Prop} {Q : α → Junction → Prop}

/-- A section with a lock of its own under the scheduler's lock. -/
theorem locked {lock : Lock} {a : Act α} (hl : lock ≠ .scheduler) (hP : Stable P)
    (h : ∀ j, P j → j.Exclusive → ∃ b i, a.runOn j = (.ok b, i) ∧ i.Exclusive ∧ Q b i) :
    Triple P (locked lock a) [.scheduler] Q := by
  refine .under hl ?_ (.act_locked List.mem_cons_self hP h)
  cases lock with
  | scheduler => exact absurd rfl hl
  | _ => rfl

theorem look {f : Junction → α} (hP : Stable P) (h : ∀ j, P j → Q (f j) j) :
    Triple P (act (look f)) [.scheduler] Q :=
  .act_locked List.mem_cons_self hP fun j hj he => ⟨f j, j, rfl, he, h j hj⟩

theorem glance {f : Junction → α} (hP : Stable P) : Triple P (act (Act.look f)) [.scheduler] (fun _ => P) :=
  .look hP fun _ hj => hj

theorem lookLocked {lock : Lock} {f : Junction → α} (hl : lock ≠ .scheduler) (hP : Stable P)
    (h : ∀ j, P j → Q (f j) j) : Triple P (Routine.locked lock (Act.look f)) [.scheduler] Q :=
  .locked hl hP fun j hj he => ⟨f j, j, rfl, he, h j hj⟩

/-- What is seen of each lane when the lanes are looked at one after the other. -/
theorem perLane {f : Lane → Junction → α} {S : Lane → α → Junction → Prop} (hP : Stable P)
    (hS : ∀ l a, Stable (S l a)) (h : ∀ l j, P j → S l (f l j) j) :
    Triple P (perLane (fun l => Routine.locked (.lane l) (Act.look (f l)))) [.scheduler]
      (fun t j => P j ∧ ∀ l, S l (t.get l) j) := by
  have hone : ∀ (l : Lane) {A : Junction → Prop}, Stable A →
      Triple (fun j => P j ∧ A j) (Routine.locked (.lane l) (Act.look (f l))) [.scheduler]
        (fun a j => P j ∧ A j ∧ S l a j) := fun l A hA =>
    .lookLocked nofun (.and hP hA) fun j hj => ⟨hj.1, hj.2, h l j hj.1⟩
  have hfirst : Triple P (Routine.locked (.lane .north) (Act.look (f .north))) [.scheduler]
      (fun a j => P j ∧ S .north a j) := .lookLocked nofun hP fun j hj => ⟨hj, h .north j hj⟩
  refine .bind hfirst fun n => ?_
  refine .bind (hone .south (hS .north n)) fun s => ?_
  refine .bind (hone .east (.and (hS .north n) (hS .south s))) fun e => ?_
  refine .bind (hone .west (.and (.and (hS .north n) (hS .south s)) (hS .east e))) fun w => .pure fun j hj => ?_
  obtain ⟨hp, ⟨⟨hn, hs⟩, he⟩, hw⟩ := hj
  refine ⟨hp, fun l => ?_⟩
  cases l with
  | north => exact hn
  | south => exact hs
  | east => exact he
  | west => exact hw

end Triple

/-! ## Switches -/

/-- The lanes that may run before a switch to a target: the source, and not the target. -/
def Before (source : Option Lane) (target l : Lane) : Prop := source = some l ∧ l ≠ target

theorem demote_triple (l : Lane) :
    Triple (Runners R) (demote l) [.scheduler] (fun _ => Runners (fun m => R m ∧ m ≠ l)) :=
  .locked nofun .runners fun j hj he => by
    obtain ⟨i, hrun, y, hl⟩ := runOn_demote j l
    exact ⟨(), i, hrun, he.yields y, fun m hm => ⟨hj m (y.runs m hm), fun e => hl (e ▸ hm)⟩⟩

theorem demoteSource_triple (source : Option Lane) (target : Lane) :
    Triple (Runners (Before source target)) (demoteSource source target) [.scheduler]
      (fun _ => Runners (fun _ => False)) := by
  unfold demoteSource
  cases hs : source.filter (· ≠ target) with
  | some l =>
    refine (demote_triple l).conseq (fun j hj => hj) fun _ j hj => hj.mono fun m hm => ?_
    rw [hm.1.1, Option.filter_some, if_pos (decide_eq_true hm.1.2)] at hs
    exact hm.2 (Option.some.inj hs)
  | none =>
    refine .pure fun j hj m hm => ?_
    obtain ⟨hsource, hne⟩ := hj m hm
    rw [hsource, Option.filter_some, if_pos (decide_eq_true hne)] at hs
    cases hs

theorem promote_triple (target : Lane) (forced : Bool) :
    Triple (Runners (fun _ => False)) (promote target forced) [.scheduler]
      (fun there => Runners (fun l => there = true ∧ l = target)) :=
  .locked nofun .runners fun j hj he => by
    obtain ⟨there, i, hrun, hm, hi⟩ := runOn_promote j target forced
    have hrunners : Runners (fun l => there = true ∧ l = target) i := fun l hl =>
      (hi l hl).resolve_left fun h => hj l h
    exact ⟨there, i, hrun, (hrunners.mono fun _ h => h.2).exclusive (hm ▸ he.count), hrunners⟩

theorem onScheduler_triple {P Q : Junction → Prop} {f : Scheduler → Scheduler} (hP : Stable P)
    (h : ∀ j, P j → Q { j with scheduler := f j.scheduler }) :
    Triple P (act (onScheduler f)) [.scheduler] (fun _ => Q) :=
  .act_locked List.mem_cons_self hP fun j hj he => ⟨(), _, rfl, ⟨he.one, he.count⟩, h j hj⟩

theorem checkMutualExclusion_triple :
    Triple (fun j => j.Linked ∧ j.scheduler.current = some target) checkMutualExclusion [.scheduler]
      (fun _ => Linked) := by
  have hP : Stable (fun j => j.Linked ∧ j.scheduler.current = some target) := .and .linked .current
  refine .bind (.perLane (S := fun l s _ => s = .running → l = target) hP (fun _ _ => .const) fun l j hj hl => ?_)
    fun states j hj => ?_
  · exact (Option.some.inj (hj.2.symm.trans (hj.1 l hl))).symm
  · have hlen : (Lane.all.filter (fun l => states.get l = .running)).length ≤ 1 :=
      Lane.length_filter_all_le fun a b ha hb =>
        (hj.2 a (of_decide_eq_true ha)).trans (hj.2 b (of_decide_eq_true hb)).symm
    rw [if_neg (Nat.not_lt.2 hlen)]
    exact ⟨rfl, hj.1.1⟩

theorem settleSwitch_triple (target : Lane) :
    Triple (Runners (· = target)) (settleSwitch target) [.scheduler] (fun _ => Linked) := by
  have hP : Stable (fun j => j.Linked ∧ j.scheduler.current = some target) := .and .linked .current
  refine .bind (onScheduler_triple (Q := fun j => j.Linked ∧ j.scheduler.current = some target) .runners fun j hj =>
    ⟨fun l hl => congrArg some (hj l hl).symm, rfl⟩) fun _ => ?_
  refine .bind (.glance hP) fun _ => ?_
  refine .bind (Q := fun _ j => j.Linked ∧ j.scheduler.current = some target)
    (.locked nofun hP fun j hj he => ⟨(), _, rfl, ⟨he.one, he.count⟩, hj⟩) fun _ => ?_
  exact checkMutualExclusion_triple

/-- What a switch leaves: a linked junction, in which no lane runs if the switch was abandoned. -/
structure Switched (done : Bool) (j : Junction) : Prop where
  linked : j.Linked
  empty : done = false → ∀ l, ¬ j.Runs l

theorem contextSwitch_triple (source : Option Lane) (target : Lane) (forced : Bool) :
    Triple (Runners (Before source target)) (contextSwitch source target forced) [.scheduler] Switched := by
  refine .bind (demoteSource_triple source target) fun _ => .bind (promote_triple target forced) fun there => ?_
  cases there with
  | true =>
    refine .bind ((settleSwitch_triple target).conseq (fun j hj => hj.mono fun _ h => h.2) fun _ _ h => h) fun _ =>
      .pure fun j hj => ⟨hj, nofun⟩
  | false =>
    refine .bind (onScheduler_triple (Q := fun j => ∀ l, ¬ j.Runs l) .runners fun j hj l hl => ?_) fun _ =>
      .pure fun j hj => ⟨fun l hl => absurd hl (hj l), fun _ => hj⟩
    exact Bool.false_ne_true (hj l hl).1

theorem demoteAll_triple : ∀ ls : List Lane,
    Triple (Runners (· ∈ ls)) (ls.forM demote) [.scheduler] (fun _ => Runners (· ∈ []))
  | [] => .pure fun _ hj => hj
  | l :: ls => by
    refine .bind ((demote_triple l).conseq (fun j hj => hj) fun _ j hj => ?_) fun _ => demoteAll_triple ls
    exact hj.mono fun m hm => (List.mem_cons.1 hm.1).resolve_left hm.2

/-- **A swap of the policy keeps the junction linked.** -/
theorem swapPolicy_free (p : Policy) : (swapPolicy p).Free (fun _ => True) := by
  refine .scheduler ?_
  refine .bind (onScheduler_triple (Q := Runners (· ∈ Lane.all)) .linked fun j _ l _ => Lane.mem_all l) fun _ => ?_
  exact (demoteAll_triple Lane.all).conseq (fun j hj => hj) fun _ j hj =>
    ⟨fun l hl => absurd (hj l hl) List.not_mem_nil, trivial⟩

/-! ## Passes -/

/-- A linked junction where no lane runs but the one that a pass saw running. -/
def Seen (running : Option Lane) (j : Junction) : Prop := j.Linked ∧ Runners (fun l => running = some l) j

theorem Stable.seen {running : Option Lane} : Stable (Seen running) := .and .linked .runners

theorem preempt_triple (target : Lane) :
    Triple Linked (preempt target) [.scheduler] (fun _ => Linked) := by
  refine .bind (Q := fun c => Runners (fun l => c = some l)) (.look .linked fun j hj => hj) fun c => ?_
  refine .bind (Q := fun s j => Runners (fun l => c = some l ∧ (l = target → s = .running)) j ∧
    (s = .running → c = some target)) (.lookLocked nofun .runners fun j hj => ?_) fun s => ?_
  · exact ⟨fun l hl => ⟨hj l hl, fun e => e ▸ hl⟩, fun h => hj target h⟩
  by_cases hs : s = .running
  · rw [if_pos hs]
    refine .bind (onScheduler_triple (.and .runners .const) fun j hj l hl => ?_) fun _ => .pure fun j hj => hj
    show some target = some l
    rw [← hj.2 hs]
    exact (hj.1 l hl).1
  · rw [if_neg hs]
    refine .bind (.bind ((contextSwitch_triple c target true).conseq (fun j hj => ?_) fun _ _ h => h.linked) fun _ =>
      .pure fun j hj => hj) fun _ => .pure fun j hj => hj
    exact hj.1.mono fun l hl => ⟨hl.1, fun e => hs (hl.2 e)⟩

theorem keepRunning_triple (running : Option Lane) :
    Triple Linked (act (keepRunning running)) [.scheduler] (fun _ => Linked) := by
  refine .act_locked List.mem_cons_self .linked fun j hj he => ?_
  cases running with
  | none => exact ⟨_, j, rfl, he, hj⟩
  | some l =>
    refine ⟨_, _, rfl, ⟨he.one, he.count⟩, fun m hm => ?_⟩
    show (if j.settings.timeQuantum ≤ j.scheduler.sliceCount then _ else j.scheduler : Scheduler).current = some m
    split
    · exact hj m hm
    · exact hj m hm

theorem handOver_triple {running : Option Lane} (hne : running ≠ some target) :
    Triple (Runners (fun l => running = some l)) (handOver running target) [.scheduler]
      (fun d => Switched d.isSwitch) := by
  refine .bind (.glance .runners) fun current => ?_
  refine .bind ((contextSwitch_triple _ target false).conseq (fun j hj => hj.mono fun l hl => ?_) fun _ _ h => h)
    fun there => ?_
  · rw [hl]
    exact ⟨rfl, fun e => hne (e ▸ hl)⟩
  · cases there with
    | true => exact .pure fun j hj => ⟨hj.linked, nofun⟩
    | false => exact .pure fun j hj => ⟨hj.linked, fun _ => hj.empty rfl⟩

theorem followChoice_triple (running choice : Option Lane) :
    Triple (Seen running) (followChoice running choice) [.scheduler] (fun _ => Linked) := by
  have hkeep : Triple (Seen running) (act (keepRunning running)) [.scheduler] (fun _ => Linked) :=
    (keepRunning_triple running).conseq (fun j hj => hj.1) fun _ _ h => h
  cases choice with
  | none => exact hkeep
  | some target =>
    unfold followChoice
    dsimp only
    by_cases h : running = some target
    · rw [if_pos h]
      exact hkeep
    · rw [if_neg h]
      exact (handOver_triple h).conseq (fun j hj => hj.2) fun _ _ h => h.linked

theorem firstRunning_eq {view : SystemSnapshot} {c : Option Lane} (hlane : ∀ l, (view.lanes.get l).lane = l)
    (hc : ∀ l, (view.lanes.get l).state = .running → c = some l) (h : (view.lanes.get l).state = .running) :
    view.firstRunning.map (·.lane) = some l := by
  have hmem : ∀ {s}, s ∈ view.running ↔ ∃ m, view.lanes.get m = s ∧ s.state = .running := by
    intro s
    rw [SystemSnapshot.running, PerLane.toList_eq, List.mem_filter, List.mem_map, decide_eq_true_eq]
    constructor
    · rintro ⟨⟨m, -, rfl⟩, hs⟩
      exact ⟨m, rfl, hs⟩
    · rintro ⟨m, rfl, hs⟩
      exact ⟨⟨m, Lane.mem_all m, rfl⟩, hs⟩
  unfold SystemSnapshot.firstRunning
  cases hr : view.running with
  | nil =>
    have hl : view.lanes.get l ∈ view.running := hmem.2 ⟨l, rfl, h⟩
    rw [hr] at hl
    cases hl
  | cons s ss =>
    obtain ⟨m, rfl, hm⟩ := hmem.1 (hr ▸ List.mem_cons_self)
    have hml : m = l := Option.some.inj ((hc m hm).symm.trans (hc l h))
    show some (view.lanes.get m).lane = some l
    rw [hlane, hml]

/-- A lane that runs when the view is complete was seen running. -/
theorem snapshot_triple :
    Triple Linked snapshot [.scheduler] (fun view => Seen (view.firstRunning.map (·.lane))) := by
  intro j hj
  suffices h : Triple (fun i => i.Linked ∧ i.scheduler.current = j.scheduler.current) snapshot [.scheduler]
      (fun view => Seen (view.firstRunning.map (·.lane))) from h j ⟨hj, rfl⟩
  have hP : Stable (fun i : Junction => i.Linked ∧ i.scheduler.current = j.scheduler.current) := .and .linked .current
  have hseen : ∀ (l : Lane) (s : LaneSnapshot), Stable (fun i => s.lane = l ∧
      (s.state = .running → j.scheduler.current = some l) ∧ Runners (fun m => m = l → s.state = .running) i) :=
    fun l s => .and .const (.and .const .runners)
  refine .bind (.perLane hP hseen fun l i hi => ?_) fun lanes => ?_
  · exact ⟨rfl, fun h => hi.2 ▸ hi.1 l h, fun m hm e => e ▸ hm⟩
  refine .bind (Q := fun _ i => i.Linked ∧ ∀ l, (lanes.get l).lane = l ∧
      ((lanes.get l).state = .running → j.scheduler.current = some l) ∧
      Runners (fun m => m = l → (lanes.get l).state = .running) i) (.look ?_ fun i hi => ⟨hi.1.1, hi.2⟩)
    fun scheduler => .pure fun i hi => ⟨hi.1, fun l hl => ?_⟩
  · exact .and hP fun i k h y l => hseen l _ i k (h l) y
  · exact firstRunning_eq (fun m => (hi.2 m).1) (fun m => (hi.2 m).2.1) ((hi.2 l).2.2 l hl rfl)

theorem passByPolicy_triple : Triple Linked passByPolicy [.scheduler] (fun _ => Linked) := by
  refine .bind snapshot_triple fun view => ?_
  refine .bind (onScheduler_triple (Q := Seen (view.firstRunning.map (·.lane))) .seen fun j hj => hj) fun _ => ?_
  refine .bind (.glance .seen) fun within => ?_
  split
  · exact (keepRunning_triple _).conseq (fun j hj => hj.1) fun _ _ h => h
  · exact .bind (.glance .seen) fun choice => followChoice_triple _ choice

theorem dueEmergency_triple : Triple Linked dueEmergency [.scheduler] (fun _ => Linked) := by
  refine .bind (Q := fun _ => Linked) ?_ fun blocked => .lookLocked nofun .linked fun j hj => hj
  exact (Triple.perLane (S := fun _ _ _ => True) .linked (fun _ _ => .const) fun _ _ _ => trivial).conseq
    (fun j hj => hj) fun _ j hj => hj.1

/-- **A pass keeps the junction linked.** -/
theorem scheduleNext_free : scheduleNext.Free (fun _ => True) := by
  refine .scheduler (.conseq (Q := fun _ => Linked) ?_ (fun j hj => hj) fun _ j hj => ⟨hj, trivial⟩)
  refine .bind (onScheduler_triple (Q := Linked) .linked fun j hj => hj) fun _ => ?_
  refine .bind dueEmergency_triple fun due => ?_
  cases due with
  | some event => exact preempt_triple event.lane
  | none => exact passByPolicy_triple

end Routine
end Crossroads
