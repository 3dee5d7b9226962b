import Crossroads.Proofs.Counters.Ledger
/-!
# Entries

What an operation enters into the ledger (`Entry`): nothing, the outcome of a step, or the deadlocks that a sweep broke.
Every entry keeps the accounts in agreement (`Ledger.Agrees.post`) and adds to them what it tells (`Ledger.adds_post`,
`Ledger.lanes_post`), so what many entries come to is counted once for all counters (`Ledger.foldl_count`).
-/
namespace Crossroads

variable {l : Lane}

namespace StepOutcome

/-- Whether the step was made, and not put off by a pause. -/
def hasRun : StepOutcome → Bool
  | .paused => false
  | .ran .. => true

def isSwitch : StepOutcome → Bool
  | .paused => false
  | .ran decision _ _ _ => decision.isSwitch

def denied : StepOutcome → Bool
  | .paused => false
  | .ran _ _ denied _ => denied

def resolutions : StepOutcome → List Resolution
  | .paused => []
  | .ran _ _ _ resolutions => resolutions

end StepOutcome

/-- What an operation enters into the ledger. -/
inductive Entry where
  | nothing
  /-- A step was answered; the traffic is what it met. -/
  | stepped (t : Traffic) (outcome : StepOutcome)
  | swept (resolutions : List Resolution)

namespace Entry

def outcomes : Entry → List StepOutcome
  | stepped _ outcome => [outcome]
  | _ => []

def resolutions : Entry → List Resolution
  | nothing => []
  | stepped _ outcome => outcome.resolutions
  | swept resolutions => resolutions

def record : Entry → Option SliceRecord
  | stepped _ outcome => outcome.record
  | _ => none

def departures (l : Lane) : Entry → List Departure
  | stepped t outcome => outcome.record.elim [] (fun r => if r.lane = l then t.departures r else [])
  | _ => []

/-- A slice counts the vehicles that it clears. -/
def Sound : Entry → Prop
  | stepped t outcome => t.Batch outcome.record
  | _ => True

end Entry

/-! ## What an entry does to the accounts -/

namespace LaneAccount

def add (a : LaneAccount) (ds : List Departure) : LaneAccount :=
  ⟨a.served + ds.length, a.waitMs + (ds.map (·.waitMs)).sum⟩

@[simp] theorem add_nil (a : LaneAccount) : a.add [] = a := rfl

@[simp] theorem add_add (a : LaneAccount) (xs ys : List Departure) : (a.add xs).add ys = a.add (xs ++ ys) := by
  simp [add, Nat.add_assoc]

end LaneAccount

namespace Ledger

def post (k : Ledger) : Entry → Ledger
  | .nothing => k
  | .stepped t outcome => k.after t outcome
  | .swept resolutions => k.resolve resolutions.length

/-- The accounts agree with each other. -/
structure Agrees (k : Ledger) : Prop where
  passes : k.scheduler.passes = k.steps
  switches : k.scheduler.switches = k.metrics.switches
  overhead : k.metrics.overheadMs = k.metrics.switches * k.settings.contextSwitchMs
  served : ∀ l, k.metrics.throughput.get l = (k.lanes.get l).served
  waited : ∀ l, k.metrics.waitMs.get l = (k.lanes.get l).waitMs
  processed : k.metrics.processed = k.metrics.throughput.sum

variable {k : Ledger} {t : Traffic} {e : Entry}

theorem Agrees.step (h : k.Agrees) : k.step.pass.Agrees :=
  { h with passes := congrArg (· + 1) h.passes }

theorem Agrees.switch (h : k.Agrees) : k.switch.Agrees :=
  { h with
    switches := congrArg (· + 1) h.switches
    overhead := (congrArg (· + k.settings.contextSwitchMs) h.overhead).trans (Nat.succ_mul _ _).symm }

theorem Agrees.decide (h : k.Agrees) (d : Decision) : (k.decide d).Agrees := by
  unfold Ledger.decide
  split
  · exact h.switch
  · exact h

theorem Agrees.deny (h : k.Agrees) : k.deny.Agrees := { h with }

theorem Agrees.resolve (h : k.Agrees) (n : Nat) : (k.resolve n).Agrees := { h with }

theorem Agrees.slice (h : k.Agrees) (r : SliceRecord) (waitMs : Nat) : (k.slice r waitMs).Agrees where
  passes := h.passes
  switches := h.switches
  overhead := h.overhead
  served l := by
    simp only [Ledger.slice, PerLane.modify, PerLane.get_set]
    split
    · rw [h.served]
    · exact h.served l
  waited l := by
    simp only [Ledger.slice, PerLane.modify, PerLane.get_set]
    split
    · rw [h.waited]
    · exact h.waited l
  processed := by
    have hsum := k.metrics.throughput.sum_set r.lane (k.metrics.throughput.get r.lane + r.vehicles)
    have hprocessed := h.processed
    simp only [Ledger.slice, PerLane.modify]
    omega

theorem Agrees.serve (h : k.Agrees) (t : Traffic) (served : Option SliceRecord × Bool) : (k.serve t served).Agrees := by
  obtain ⟨record, denied⟩ := served
  have hslice : (record.elim k fun r => k.slice r (t.waitMs r)).Agrees := by
    cases record with
    | none => exact h
    | some r => exact h.slice r _
  unfold Ledger.serve
  dsimp only
  split
  · exact hslice.deny
  · exact hslice

/-- **Every entry keeps the accounts in agreement.** -/
theorem Agrees.post (h : k.Agrees) (e : Entry) : (k.post e).Agrees := by
  cases e with
  | nothing => exact h
  | swept resolutions => exact h.resolve _
  | stepped t outcome =>
    cases outcome with
    | paused => exact h
    | ran decision record denied resolutions => exact ((h.step.decide decision).serve t (record, denied)).resolve _

/-- What an entry adds to the accounts. -/
structure Adds (k k' : Ledger) (e : Entry) : Prop where
  settings : k'.settings = k.settings
  config : k'.config = k.config
  steps : k'.steps = k.steps + e.outcomes.countP (·.hasRun)
  switches : k'.metrics.switches = k.metrics.switches + e.outcomes.countP (·.isSwitch)
  prevented : k'.metrics.prevented = k.metrics.prevented + e.outcomes.countP (·.denied)
  resolved : k'.metrics.resolved = k.metrics.resolved + e.resolutions.length
  processed : k'.metrics.processed = k.metrics.processed + (e.record.toList.map (·.vehicles)).sum
  busyMs : k'.metrics.busyMs = k.metrics.busyMs + (e.record.toList.map (·.durationMs)).sum
  history : k'.scheduler.history = e.record.elim k.scheduler.history (fun r => (k.scheduler.history.push r).2)

theorem adds_post (k : Ledger) (e : Entry) : k.Adds (k.post e) e := by
  cases e with
  | nothing => exact ⟨rfl, rfl, rfl, rfl, rfl, rfl, rfl, rfl, rfl⟩
  | swept resolutions => exact ⟨rfl, rfl, rfl, rfl, rfl, rfl, rfl, rfl, rfl⟩
  | stepped t outcome =>
    cases outcome with
    | paused => exact ⟨rfl, rfl, rfl, rfl, rfl, rfl, rfl, rfl, rfl⟩
    | ran decision record denied resolutions =>
      -- A step writes its switch, its slice and its denial each on its own account.
      cases decision <;> cases record <;> cases denied <;> exact ⟨rfl, rfl, rfl, rfl, rfl, rfl, rfl, rfl, rfl⟩

theorem length_departures {r : SliceRecord} (h : t.Batch (some r)) : (t.departures r).length = r.vehicles := by
  have hbatch := h r rfl
  have hlen : (t.lanes.get r.lane).queue.vehicles.length = (t.lanes.get r.lane).queue.length := rfl
  rw [Traffic.departures, List.length_map, List.length_take]
  omega

theorem lanes_slice {r : SliceRecord} (h : t.Batch (some r)) (l : Lane) :
    (k.slice r (t.waitMs r)).lanes.get l = (k.lanes.get l).add (if r.lane = l then t.departures r else []) := by
  simp only [Ledger.slice, PerLane.modify, PerLane.get_set]
  by_cases hl : r.lane = l
  · subst hl
    rw [if_pos rfl, if_pos rfl, LaneAccount.add, length_departures h]
    rfl
  · rw [if_neg (Ne.symm hl), if_neg hl, LaneAccount.add_nil]

/-- **An entry adds to a lane's account the vehicles that it clears from the lane.** -/
theorem lanes_post (he : e.Sound) (l : Lane) : (k.post e).lanes.get l = (k.lanes.get l).add (e.departures l) := by
  cases e with
  | nothing | swept => exact (LaneAccount.add_nil _).symm
  | stepped t outcome =>
    cases outcome with
    | paused => exact (LaneAccount.add_nil _).symm
    | ran decision record denied resolutions =>
      have hlanes : (k.post (.stepped t (.ran decision record denied resolutions))).lanes =
          (record.elim k fun r => k.slice r (t.waitMs r)).lanes := by
        cases decision <;> cases record <;> cases denied <;> rfl
      rw [hlanes]
      cases record with
      | none => exact (LaneAccount.add_nil _).symm
      | some r => exact lanes_slice he l

/-! ### Many entries -/

theorem Agrees.foldl (h : k.Agrees) (es : List Entry) : (es.foldl Ledger.post k).Agrees := by
  induction es generalizing k with
  | nil => exact h
  | cons e es ih => exact ih (h.post e)

/-- **A counter that every entry moves by a measure of what it tells counts what all of them tell.** -/
theorem foldl_count {α : Type} {f : Ledger → Nat} {tells : Entry → List α} {m : List α → Nat} (hnil : m [] = 0)
    (happend : ∀ xs ys, m (xs ++ ys) = m xs + m ys) (hpost : ∀ k e, f (k.post e) = f k + m (tells e)) :
    ∀ (es : List Entry) (k : Ledger), f (es.foldl Ledger.post k) = f k + m (es.flatMap tells)
  | [], k => by simp [hnil]
  | e :: es, k => by
    rw [List.foldl_cons, foldl_count hnil happend hpost es, hpost, List.flatMap_cons, happend, Nat.add_assoc]

theorem foldl_settings : ∀ (es : List Entry) (k : Ledger), (es.foldl Ledger.post k).settings = k.settings
  | [], _ => rfl
  | e :: es, k => (foldl_settings es _).trans (k.adds_post e).settings

theorem foldl_lanes (l : Lane) : ∀ (es : List Entry) (k : Ledger), (∀ e ∈ es, e.Sound) →
    (es.foldl Ledger.post k).lanes.get l = (k.lanes.get l).add (es.flatMap (Entry.departures l))
  | [], _, _ => (LaneAccount.add_nil _).symm
  | e :: es, k, h => by
    obtain ⟨he, hes⟩ := List.forall_mem_cons.1 h
    rw [List.foldl_cons, foldl_lanes l es _ hes, lanes_post he, LaneAccount.add_add, List.flatMap_cons]

theorem foldl_history : ∀ (es : List Entry) (k : Ledger), (es.foldl Ledger.post k).scheduler.history =
    (es.flatMap (fun e => e.record.toList)).foldl (fun r x => (r.push x).2) k.scheduler.history
  | [], _ => rfl
  | e :: es, k => by
    rw [List.foldl_cons, foldl_history es, (k.adds_post e).history, List.flatMap_cons, List.foldl_append]
    cases e.record <;> rfl

end Ledger

end Crossroads
