import Crossroads.Proofs.Steps.Punctual
import Crossroads.Proofs.Steps.Preemption
/-!
# Taking turns

Under priority round robin the lanes of one priority take turns, although no turn is stored: the next lane is the ready
one that was served least recently.  A lane that gets the crossing while another one waits was served later than that
one from then on, so it does not get it a second time, and it keeps it no longer than its quantum
(`Junction.Waits.move`).  Hence a ready lane waits for a bounded number of steps (`Junction.bounded_waiting`).
-/
namespace Crossroads

open Junction LaneSnapshot

variable {i j j₀ : Junction} {l m p : Lane} {a b : Approach} {op : Operation} {pre ops : List Operation} {n now : Nat}

/-! ## Decisions of a run -/

/-- Whether a decision hands the crossing to a lane. -/
def Decision.handsTo (l : Lane) : Decision → Bool
  | switch _ target _ => target = l
  | _ => false

namespace Operation

/-- The decision of an operation, if it is a step that is made. -/
def decided (op : Operation) (j : Junction) : Option Decision :=
  match op with
  | step =>
    match (op.runOn j).1 with
    | .ok (.outcome (.ran decision _ _ _)) => some decision
    | _ => none
  | _ => none

/-- What is done with a junction while no emergency is raised, the policy stays, and the clock does not go back. -/
def Calm (j : Junction) : Operation → Prop
  | step | arrive _ none | tickLane _ | advance _ | sleep _ | pause | resume => True
  | setClock ms => j.clock ≤ ms
  | _ => False

theorem Calm.onward (h : op.Calm j) : op.Onward j := by
  cases op with
  | arrive l kind => trivial
  | step | tickLane | advance | sleep | pause | resume => trivial
  | setClock ms => exact h
  | _ => exact h.elim

end Operation

/-- The decisions of the steps that are made in a run, in order. -/
def Junction.decisions : Junction → List Operation → List Decision
  | _, [] => []
  | j, op :: ops => (op.decided j).toList ++ decisions (op.next j) ops

/-- How many steps of a run are due, as they meet a junction that is not paused. -/
def Junction.unpausedSteps : Junction → List Operation → Nat
  | _, [] => 0
  | j, op :: ops => (if op = .step ∧ j.paused = false then 1 else 0) + unpausedSteps (op.next j) ops

theorem Junction.Undisturbed.decided_step (h : j.Undisturbed) (hp : j.paused = false) :
    Operation.decided .step j = some j.decision := by
  rw [Operation.decided, h.step_answer hp]

theorem Junction.decided_step_paused (hp : j.paused = true) : Operation.decided .step j = none := by
  rw [Operation.decided, step_answer_paused hp]

theorem Junction.Undisturbed.length_decided (h : j.Undisturbed) (op : Operation) :
    (op.decided j).toList.length = if op = .step ∧ j.paused = false then 1 else 0 := by
  cases op with
  | step =>
    cases hp : j.paused with
    | true =>
      rw [decided_step_paused hp]
      rfl
    | false =>
      rw [h.decided_step hp]
      rfl
  | _ => rfl

theorem Junction.Punctual.length_decisions : ∀ (ops : List Operation) {j : Junction}, j.Punctual →
    j.Along Operation.Calm ops → (j.decisions ops).length = j.unpausedSteps ops
  | [], _, _, _ => rfl
  | op :: ops, _, h, ⟨hop, hops⟩ => by
    rw [decisions, unpausedSteps, List.length_append, h.length_decided,
      length_decisions ops (h.next hop.onward) hops]

/-! ## The least recently served -/

/-- Of two lanes of one priority the one that precedes the other was not served after it. -/
theorem Policy.compareService_ne_gt {s t : LaneSnapshot} (hp : s.priority = t.priority)
    (h : (Policy.priorityOrder s t).isLE = true) : compareService s.lastServiceMs t.lastServiceMs ≠ .gt := by
  intro hgt
  have hlevel : compare s.priority t.priority = .eq := Nat.compare_eq_eq.2 hp
  rw [priorityOrder, turnOrder, hgt, hlevel] at h
  cases h

theorem Emergencies.next_eq_none {em : Emergencies} (h : em.count = 0) : em.next = none := by
  rw [next, nextWhere, List.eq_nil_of_length_eq_zero h]
  rfl

/-! ## What a waiting lane sees -/

namespace Junction

/-- A punctual junction under priority round robin in which no emergency is pending and a lane is ready. -/
structure Waits (j : Junction) (l : Lane) : Prop extends j.Punctual where
  rotating : j.scheduler.policy = .priorityRoundRobin
  calm : j.emergencies.count = 0
  ready : (j.lanes.get l).state = .ready

/-- One if another lane may still get the crossing before a lane does, as it was not served after it. -/
def ahead (j : Junction) (l m : Lane) : Nat :=
  if m = l ∨ compareService (j.lanes.get m).lastServiceMs (j.lanes.get l).lastServiceMs = .gt then 0 else 1

/-- The slices that the running lane has left of its quantum. -/
def remaining (j : Junction) : Nat :=
  if j.runningLanes = [] then 0 else j.settings.timeQuantum - j.scheduler.sliceCount

/-- The steps that a lane may still have to wait: a quantum for every lane ahead of it, a step for every switch, and
what the running lane has left. -/
def delay (j : Junction) (l : Lane) : Nat :=
  (j.settings.timeQuantum + 1) * (PerLane.ofFn (j.ahead l)).sum + j.remaining

theorem ahead_le_one (j : Junction) (l m : Lane) : j.ahead l m ≤ 1 := by
  unfold ahead
  split <;> omega

theorem ahead_self (j : Junction) (l : Lane) : j.ahead l l = 0 := if_pos (.inl rfl)

theorem remaining_le (j : Junction) : j.remaining ≤ j.settings.timeQuantum := by
  unfold remaining
  split
  · exact Nat.zero_le _
  · exact Nat.sub_le _ _

theorem sum_ahead_le (j : Junction) (l : Lane) : (PerLane.ofFn (j.ahead l)).sum ≤ 3 := by
  have hself := j.ahead_self l
  have hnorth := j.ahead_le_one l .north
  have hsouth := j.ahead_le_one l .south
  have heast := j.ahead_le_one l .east
  have hwest := j.ahead_le_one l .west
  show j.ahead l .north + j.ahead l .south + j.ahead l .east + j.ahead l .west ≤ 3
  cases l <;> omega

theorem delay_lt (j : Junction) (l : Lane) : j.delay l < 4 * (j.settings.timeQuantum + 1) := by
  have hsum := Nat.mul_le_mul_left (j.settings.timeQuantum + 1) (j.sum_ahead_le l)
  have hrest := j.remaining_le
  rw [delay]
  omega

/-- What an operation that may be decided on looks like to a waiting lane. -/
inductive Move (l : Lane) (j i : Junction) : Option Decision → Prop where
  /-- No step is made. -/
  | still : i.Waits l → (∀ p, i.ahead l p = j.ahead l p) → i.remaining = j.remaining → Move l j i none
  /-- The running lane keeps the crossing for a slice of its quantum. -/
  | kept (m : Lane) : i.Waits l → (∀ p, i.ahead l p ≤ j.ahead l p) → i.remaining < j.remaining →
    Move l j i (some (.keep m))
  /-- A lane ahead gets the crossing and is behind from then on. -/
  | passed (source : Option Lane) (m : Lane) : i.Waits l →
    (∀ p, i.ahead l p + (if p = m then 1 else 0) ≤ j.ahead l p) → Move l j i (some (.switch source m false))
  /-- The waiting lane gets the crossing. -/
  | chosen (source : Option Lane) : (i.lanes.get l).state ≠ .ready → Move l j i (some (.switch source l false))

end Junction

/-! ## Operations other than steps -/

/-- What happens to a lane between steps: it is not served, runs only if it did, and stays ready if it was. -/
structure Approach.Lingers (a b : Approach) : Prop extends a.Unserved b where
  runs : b.state = .running ↔ a.state = .running
  ready : a.state = .ready → b.state = .ready

namespace Approach

theorem Lingers.refl (a : Approach) : a.Lingers a := ⟨.refl a, .rfl, id⟩

theorem lingers_aged (a : Approach) : a.Lingers a.aged :=
  ⟨a.unserved_aged, by rw [aged_state], fun h => (aged_state a).trans h⟩

theorem lingers_letIn (a : Approach) (v : Vehicle) : a.Lingers (a.letIn v) := by
  refine ⟨a.unserved_letIn v, ?_, fun hr => if_neg (hr ▸ nofun)|>.trans hr⟩
  show (if a.state = .waiting then LaneState.ready else a.state) = .running ↔ _
  split
  · rename_i hw
    rw [hw]
    exact ⟨nofun, nofun⟩
  · exact .rfl

end Approach

namespace Junction

structure Lingers (j i : Junction) : Prop where
  scheduler : i.scheduler = j.scheduler
  settings : i.settings = j.settings
  emergencies : i.emergencies = j.emergencies
  lanes : ∀ m, (j.lanes.get m).Lingers (i.lanes.get m)

theorem Lingers.of_lanes (hscheduler : i.scheduler = j.scheduler) (hsettings : i.settings = j.settings)
    (hemergencies : i.emergencies = j.emergencies) (hlanes : i.lanes = j.lanes) : j.Lingers i :=
  ⟨hscheduler, hsettings, hemergencies, fun _ => hlanes ▸ .refl _⟩

/-- A calm operation is a step that is made, or nothing is decided and the junction lingers. -/
theorem Undisturbed.next_cases (h : j.Undisturbed) (hop : op.Calm j) :
    (op.decided j = some j.decision ∧ op.next j = j.stepped) ∨ (op.decided j = none ∧ j.Lingers (op.next j)) := by
  cases op with
  | step =>
    cases hp : j.paused with
    | true =>
      rw [next_step_of_paused hp]
      exact .inr ⟨decided_step_paused hp, .of_lanes rfl rfl rfl rfl⟩
    | false => exact .inl ⟨h.decided_step hp, h.next_step_eq hp⟩
  | arrive m kind =>
    cases kind with
    | some kind => exact hop.elim
    | none =>
      refine .inr ⟨rfl, ?_⟩
      rcases Nat.lt_or_ge (j.lanes.get m).queue.length (j.lanes.get m).queue.capacity with hroom | hfull
      · rw [Operation.next_arrive_ok hroom]
        exact ⟨rfl, rfl, rfl, PerLane.rel_set .refl _ (Approach.lingers_letIn _ _)⟩
      · rw [Operation.next_arrive_error hfull]
        exact .of_lanes rfl rfl rfl rfl
  | tickLane m =>
    rw [Operation.next_tickLane (h.settled m)]
    exact .inr ⟨rfl, rfl, rfl, rfl, PerLane.rel_set .refl _ (Approach.lingers_aged _)⟩
  | sleep ms =>
    rw [Operation.next_sleep]
    split <;> exact .inr ⟨rfl, .of_lanes rfl rfl rfl rfl⟩
  | advance | setClock | pause | resume => exact .inr ⟨rfl, .of_lanes rfl rfl rfl rfl⟩
  | _ => exact hop.elim

theorem Waits.still (h : j.Waits l) (hi : i.Punctual) (hs : j.Lingers i) : Move l j i none := by
  have hrunning : i.runningLanes = j.runningLanes :=
    List.filter_congr fun m _ => decide_eq_decide.2 (hs.lanes m).runs
  refine .still ⟨hi, ?_, ?_, (hs.lanes l).ready h.ready⟩ (fun p => ?_) ?_
  · rw [hs.scheduler]
    exact h.rotating
  · rw [hs.emergencies]
    exact h.calm
  · rw [ahead, ahead, (hs.lanes p).lastServiceMs, (hs.lanes l).lastServiceMs]
  · rw [remaining, remaining, hrunning, hs.settings, hs.scheduler]

/-! ## Steps -/

theorem Waits.dueEmergency_eq_none (h : j.Waits l) : j.dueEmergency = none := by
  rw [h.toUndisturbed.dueEmergency_eq]
  exact Emergencies.next_eq_none h.calm

/-- While a lane waits, a pass keeps a lane within its quantum, or switches to a lane ahead, or to the lane itself. -/
theorem Waits.decision_cases (h : j.Waits l) :
    (∃ m, j.Runs m ∧ j.scheduler.sliceCount < j.settings.timeQuantum ∧ j.decision = .keep m) ∨
      ∃ m, (j.lanes.get m).state = .ready ∧ (m = l ∨ j.ahead l m = 1) ∧
        j.decision = .switch j.scheduler.current m false := by
  have hdue := h.dueEmergency_eq_none
  by_cases hkeep : (j.runningLane.isSome && j.withinQuantum) = true
  · have hasked : j.asked = none := if_pos hkeep
    obtain ⟨hsome, hwithin⟩ := Bool.and_eq_true_iff.1 hkeep
    obtain ⟨m, hm⟩ := Option.isSome_iff_exists.1 hsome
    refine .inl ⟨m, runs_of_runningLane hm, of_decide_eq_true (Bool.and_eq_true_iff.1 hwithin).2, ?_⟩
    rw [decision_of_not_asked hdue hasked, hm]
    rfl
  · obtain ⟨best, hbest⟩ := exists_leastReady h.ready .priorityRoundRobin j.settings.policyParams
    have hasked : j.asked = some best.lane := by
      rw [asked, if_neg hkeep, h.rotating, Policy.choose_of_not_preemptive rfl, hbest]
      rfl
    obtain ⟨m, rfl, hready⟩ := mem_filter_snapshot.1 (mem_of_firstLeast? hbest)
    have hle : (Policy.priorityOrder ((j.lanes.get m).snapshot m) ((j.lanes.get l).snapshot l)).isLE = true :=
      isLE_of_firstLeast? hbest (mem_ready_snapshot h.ready)
    have hahead : compareService (j.lanes.get m).lastServiceMs (j.lanes.get l).lastServiceMs ≠ .gt :=
      Policy.compareService_ne_gt (h.level m l) hle
    refine .inr ⟨m, hready, ?_, decision_of_asked hdue hasked⟩
    by_cases hm : m = l
    · exact .inl hm
    · exact .inr (if_neg (not_or.2 ⟨hm, hahead⟩))

theorem Waits.stepped (h : j.Waits l) (hi : j.stepped.Punctual) (hd : j.decision.lane = some m) (hm : m ≠ l) :
    j.stepped.Waits l where
  toPunctual := hi
  rotating := by
    rw [stepped_of_lane hd]
    exact h.rotating
  calm := by
    have hcount := j.emergencies.count_resolve m
    rw [h.calm] at hcount
    rw [stepped_of_lane hd]
    show (j.emergencies.resolve m).2.count = 0
    omega
  ready := by
    rw [stepped_get_of_ne hd hm.symm, Approach.stepAside_of_ne (by rw [h.ready]; exact nofun)]
    exact h.ready

theorem ahead_stepped_of_ne (hl : j.decision.lane ≠ some l) (hp : j.decision.lane ≠ some p) :
    j.stepped.ahead l p = j.ahead l p := by
  rw [ahead, ahead, (stepped_unserved hl).lastServiceMs, (stepped_unserved hp).lastServiceMs]

theorem Punctual.ahead_stepped (h : j.Punctual) (hd : j.decision.lane = some m) (hm : m ≠ l)
    (hs : (j.lanes.get m).state = .ready ∨ j.Runs m) : j.stepped.ahead l m = 0 := by
  have hl : j.decision.lane ≠ some l := fun e => hm (Option.some.inj (hd.symm.trans e))
  refine if_pos (.inr ?_)
  rw [stepped_lastServiceMs hd, if_pos (h.batch_pos hs), (stepped_unserved hl).lastServiceMs]
  cases hlast : (j.lanes.get l).lastServiceMs with
  | none => rfl
  | some s => exact Nat.compare_eq_gt.2 (Nat.lt_of_lt_of_le (h.past l s hlast) j.clock_le_readied)

theorem stepped_sliceCount (hd : j.decision.lane = some m) : j.stepped.scheduler.sliceCount =
    (if j.decision.isSwitch || j.renews then 0 else j.scheduler.sliceCount) + 1 := by
  have hcurrent : j.readied.scheduler.current = some m := by
    show j.decision.lane.or j.scheduler.current = some m
    rw [hd]
    rfl
  rw [stepped_of_lane hd]
  exact if_pos hcurrent

theorem remaining_stepped_lt (hr : j.Runs m) (hq : j.scheduler.sliceCount < j.settings.timeQuantum)
    (hd : j.decision = .keep m) : j.stepped.remaining < j.remaining := by
  have hrunning : j.runningLanes ≠ [] :=
    List.ne_nil_of_mem (List.mem_filter.2 ⟨Lane.mem_all m, decide_eq_true hr⟩)
  have hrenews : j.renews = false := by
    rw [renews, decide_eq_false (Nat.not_le.2 hq), Bool.and_false]
  have hcount : j.stepped.scheduler.sliceCount = j.scheduler.sliceCount + 1 := by
    rw [stepped_sliceCount (congrArg Decision.lane hd), hd, hrenews]
    rfl
  rw [remaining, remaining, if_neg hrunning, stepped_settings, hcount]
  split <;> omega

/-- **What a step looks like to a waiting lane.** -/
theorem Waits.move_step (h : j.Waits l) (hi : j.stepped.Punctual) : j.Move l j.stepped (some j.decision) := by
  -- a lane that the step does not serve is ahead or behind as before
  have hsame : ∀ {m}, j.decision.lane = some m → m ≠ l → ∀ p, p ≠ m → j.stepped.ahead l p = j.ahead l p := by
    intro m hd hm p hp
    refine ahead_stepped_of_ne ?_ ?_ <;> rw [hd]
    · exact fun e => hm (Option.some.inj e)
    · exact fun e => hp (Option.some.inj e).symm
  obtain ⟨m, hr, hq, hd⟩ | ⟨m, hready, hahead, hd⟩ := h.decision_cases
  all_goals have hlane : j.decision.lane = some m := congrArg Decision.lane hd
  · have hm : m ≠ l := fun e => by
      have hl := h.ready
      rw [← e, hr] at hl
      cases hl
    have hless := remaining_stepped_lt hr hq hd
    have hbehind := h.ahead_stepped hlane hm (.inr hr)
    rw [hd]
    refine .kept m (h.stepped hi hlane hm) (fun p => ?_) hless
    by_cases hp : p = m
    · rw [hp, hbehind]
      exact Nat.zero_le _
    · exact Nat.le_of_eq (hsame hlane hm p hp)
  · rw [hd]
    by_cases hm : m = l
    · subst hm
      refine .chosen _ ?_
      rw [stepped_get_self hlane, Approach.crossed_state (Approach.enter_state _ _)]
      split <;> exact nofun
    · refine .passed _ m (h.stepped hi hlane hm) fun p => ?_
      by_cases hp : p = m
      · rw [hp, h.ahead_stepped hlane hm (.inl hready), hahead.resolve_left hm, if_pos rfl]
      · rw [if_neg hp]
        exact Nat.le_of_eq (hsame hlane hm p hp)

/-- **What a calm operation looks like to a waiting lane.** -/
theorem Waits.move (h : j.Waits l) (hop : op.Calm j) : j.Move l (op.next j) (op.decided j) := by
  have hi := h.toPunctual.next hop.onward
  obtain ⟨hdecided, hnext⟩ | ⟨hdecided, hlingers⟩ := h.next_cases hop
  all_goals rw [hdecided]
  · rw [hnext] at hi ⊢
    exact h.move_step hi
  · exact h.still hi hlingers

theorem Undisturbed.settings_next (h : j.Undisturbed) (hop : op.Calm j) : (op.next j).settings = j.settings := by
  obtain ⟨-, hnext⟩ | ⟨-, hlingers⟩ := h.next_cases hop
  · rw [hnext, stepped_settings]
  · exact hlingers.settings

/-! ## Runs -/

theorem delay_lt_of_kept (hs : i.settings = j.settings) (hahead : ∀ p, i.ahead l p ≤ j.ahead l p)
    (hremaining : i.remaining < j.remaining) : i.delay l < j.delay l := by
  have hsum : (PerLane.ofFn (i.ahead l)).sum ≤ (PerLane.ofFn (j.ahead l)).sum :=
    Nat.add_le_add (Nat.add_le_add (Nat.add_le_add (hahead _) (hahead _)) (hahead _)) (hahead _)
  rw [delay, delay, hs]
  exact Nat.add_lt_add_of_le_of_lt (Nat.mul_le_mul_left _ hsum) hremaining

/-- A switch shortens the wait by a whole quantum, of which the lane that gets the crossing may use all. -/
theorem delay_lt_of_passed (hs : i.settings = j.settings)
    (hahead : ∀ p, i.ahead l p + (if p = m then 1 else 0) ≤ j.ahead l p) : i.delay l < j.delay l := by
  have hsum : (PerLane.ofFn (i.ahead l)).sum + 1 ≤ (PerLane.ofFn (j.ahead l)).sum := by
    have hnorth := hahead .north
    have hsouth := hahead .south
    have heast := hahead .east
    have hwest := hahead .west
    show i.ahead l .north + i.ahead l .south + i.ahead l .east + i.ahead l .west + 1 ≤
      j.ahead l .north + j.ahead l .south + j.ahead l .east + j.ahead l .west
    cases m <;> simp at hnorth hsouth heast hwest <;> omega
  have hmul := Nat.mul_le_mul_left (j.settings.timeQuantum + 1) hsum
  have hremaining := i.remaining_le
  rw [hs] at hremaining
  rw [delay, delay, hs]
  rw [Nat.mul_add, Nat.mul_one] at hmul
  omega

/-- **While a lane stays ready, another is handed the crossing only as long as it is ahead.** -/
theorem Waits.countP_handsTo_le : ∀ (ops : List Operation) {j : Junction}, j.Waits l → j.Along Operation.Calm ops →
    (∀ k ≤ ops.length, ((j.after (ops.take k)).lanes.get l).state = .ready) →
    (j.decisions ops).countP (·.handsTo m) ≤ j.ahead l m
  | [], _, _, _, _ => Nat.zero_le _
  | op :: ops, j, h, ⟨hop, hops⟩, hready => by
    have hrest : ∀ k ≤ ops.length, (((op.next j).after (ops.take k)).lanes.get l).state = .ready :=
      fun k hk => hready (k + 1) (Nat.succ_le_succ hk)
    have hmove := h.move hop
    rw [decisions]
    generalize op.decided j = decided at hmove ⊢
    cases hmove with
    | still hi hahead _ =>
      rw [← hahead m]
      exact countP_handsTo_le ops hi hops hrest
    | kept p hi hahead _ => exact Nat.le_trans (countP_handsTo_le ops hi hops hrest) (hahead m)
    | passed source p hi hahead =>
      have ih := countP_handsTo_le ops hi hops hrest
      have hcount : ((.switch source p false :: (op.next j).decisions ops : List Decision).countP (·.handsTo m)) =
          ((op.next j).decisions ops).countP (·.handsTo m) + if m = p then 1 else 0 := by
        rw [List.countP_cons]
        simp [Decision.handsTo, eq_comm]
      exact Nat.le_trans (Nat.le_of_eq hcount) (Nat.le_trans (Nat.add_le_add_right ih _) (hahead m))
    | chosen source hleft => exact absurd (hrest 0 (Nat.zero_le _)) hleft

/-- **A ready lane is handed the crossing** before more steps are made than its delay counts. -/
theorem Waits.exists_chosen : ∀ (ops : List Operation) {j : Junction} {n : Nat}, j.Waits l →
    j.Along Operation.Calm ops → j.delay l < n → n ≤ (j.decisions ops).length →
    ∃ source, .switch source l false ∈ (j.decisions ops).take n
  | [], _, n, _, _, hlt, hle => absurd (Nat.lt_of_lt_of_le hlt hle) (Nat.not_lt_zero _)
  | op :: ops, j, n, h, ⟨hop, hops⟩, hlt, hle => by
    have hmove := h.move hop
    have hsettings := h.settings_next hop
    obtain ⟨n, rfl⟩ := Nat.exists_eq_succ_of_ne_zero (Nat.ne_of_gt (Nat.lt_of_le_of_lt (Nat.zero_le _) hlt))
    -- a step that shortens the wait leaves one step less to make
    have hlater : ∀ d : Decision, (op.next j).Waits l → (op.next j).delay l < j.delay l →
        n + 1 ≤ (d :: (op.next j).decisions ops).length →
        ∃ source, .switch source l false ∈ (d :: (op.next j).decisions ops).take (n + 1) := fun d hi hless hle => by
      obtain ⟨source, hmem⟩ := exists_chosen ops hi hops (n := n) (by omega) (Nat.le_of_succ_le_succ hle)
      exact ⟨source, List.mem_cons_of_mem d hmem⟩
    rw [decisions] at hle ⊢
    generalize op.decided j = decided at hmove hle ⊢
    cases hmove with
    | still hi hahead hremaining =>
      refine exists_chosen ops hi hops ?_ hle
      rw [delay, hsettings, hremaining, funext hahead]
      exact hlt
    | kept m hi hahead hremaining => exact hlater _ hi (delay_lt_of_kept hsettings hahead hremaining) hle
    | passed source m hi hahead => exact hlater _ hi (delay_lt_of_passed hsettings hahead) hle
    | chosen source _ => exact ⟨source, List.mem_cons_self⟩

/-- What becomes of a ready lane in a run of calm operations. -/
structure TakesTurns (j : Junction) (l : Lane) (ops : List Operation) : Prop where
  /-- Every step that is due is made and decides. -/
  decided : (j.decisions ops).length = j.unpausedSteps ops
  /-- While the lane stays ready, no other one is handed the crossing twice. -/
  once : (∀ k ≤ ops.length, ((j.after (ops.take k)).lanes.get l).state = .ready) → ∀ m, m ≠ l →
    (j.decisions ops).countP (·.handsTo m) ≤ 1
  /-- It is handed the crossing within the quanta of four lanes, with a step more for each. -/
  soon : 4 * (j.settings.timeQuantum + 1) ≤ j.unpausedSteps ops →
    ∃ source, .switch source l false ∈ (j.decisions ops).take (4 * (j.settings.timeQuantum + 1))

/-- **A ready lane waits for a bounded number of steps under priority round robin**, if all lanes have one priority and
batches take time, as long as no stop is requested and the clock does not go back. -/
theorem bounded_waiting {b : Blueprint} (hb : b.build now = .ok j₀)
    (hlevel : ∀ l m, b.priorities.get l = b.priorities.get m) (hcross : 1 ≤ b.config.crossTimeMs)
    (hpre : j₀.Along Operation.Onward pre) (hpolicy : (j₀.after pre).scheduler.policy = .priorityRoundRobin)
    (hcalm : (j₀.after pre).emergencies.count = 0) (hready : ((j₀.after pre).lanes.get l).state = .ready)
    (hops : (j₀.after pre).Along Operation.Calm ops) : (j₀.after pre).TakesTurns l ops := by
  have h : (j₀.after pre).Waits l := ⟨(Punctual.built hb hlevel hcross).after pre hpre, hpolicy, hcalm, hready⟩
  have hmade := h.toPunctual.length_decisions ops hops
  exact ⟨hmade, fun hstays m _ => Nat.le_trans (h.countP_handsTo_le ops hops hstays) (ahead_le_one _ l m),
    fun hlong => h.exists_chosen ops hops (delay_lt _ l) (hmade ▸ hlong)⟩

/-- The south was served once, and waits behind the north and the east, which were not. -/
theorem bounded_waiting_south :
    let b : Blueprint := { config := { initialPolicy := .priorityRoundRobin, timeQuantum := 1 } }
    let pre : List Operation := [.arrive .south none, .step] ++ [.south, .north, .east].map (.arrive · none)
    let ops : List Operation := .arrive .north none :: .replicate 8 .step
    let j : Junction := (b.assemble b.config 0).after pre
    j.TakesTurns .south ops ∧ ∃ source, .switch source .south false ∈ (j.decisions ops).take 8 := by
  intro b pre ops j
  have hpre : (b.assemble b.config 0).Along Operation.Onward pre := by
    simp [pre, Along, Operation.Onward, Operation.HandsOff, Operation.Regular]
  have hops : j.Along Operation.Calm ops := by simp [ops, List.replicate, Along, Operation.Calm]
  have hturns : j.TakesTurns .south ops :=
    bounded_waiting (b := b) rfl (fun l m => by cases l <;> cases m <;> rfl) (by decide) hpre (by decide +kernel)
      (by decide +kernel) (by decide +kernel) hops
  have hquantum : j.settings.timeQuantum = 1 := by decide +kernel
  have hlong : j.unpausedSteps ops = 8 := by decide +kernel
  have hsoon := hturns.soon
  rw [hquantum, hlong] at hsoon
  exact ⟨hturns, hsoon (Nat.le_refl _)⟩

end Junction
end Crossroads
