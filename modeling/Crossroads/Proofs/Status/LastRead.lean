import Mathlib.Data.List.Basic
import Mathlib.Data.List.Induction
import Crossroads.Probe
import Crossroads.Proofs.Traffic.Events
/-!
# Statuses report what was last read

A reader's statuses show every part as it was when a poll last found it free, and mark it as fresh exactly if this poll
did (`StatusReader.poll_after`).  The pending emergencies are not remembered: they are shown or they are missing, and a
status that lacks them may still be called fully fresh (`StatusReader.fullyFresh_without_emergencies`).
-/
namespace Crossroads

/-- A poll: which parts are busy, and the junction at that time. -/
abbrev Poll := Busy × Junction

/-- The junction at the last of some polls that found a part free. -/
def lastFree (isBusy : Busy → Bool) (polls : List Poll) : Option Junction :=
  (polls.reverse.find? (fun p => !isBusy p.1)).map (·.2)

theorem lastFree_concat (isBusy : Busy → Bool) (polls : List Poll) (p : Poll) :
    lastFree isBusy (polls ++ [p]) = if isBusy p.1 then lastFree isBusy polls else some p.2 := by
  rw [lastFree, List.reverse_concat, List.find?_cons]
  cases isBusy p.1 <;> rfl

variable {α : Type} {isBusy : Busy → Bool} {value : Junction → α} {polls : List Poll}

/-- What is remembered of a part is its value when it was last found free. -/
def LastKnown.Remembers (k : LastKnown α) (isBusy : Busy → Bool) (value : Junction → α) (polls : List Poll) : Prop :=
  k.value = (lastFree isBusy polls).map value

/-- How a status shows a part after some polls, of which the last gave the status. -/
structure Observed.Reports (part : Option (Observed α)) (isBusy : Busy → Bool) (value : Junction → α)
    (before : List Poll) (now : Poll) : Prop where
  value_eq : part.map (·.value) = (lastFree isBusy (before ++ [now])).map value
  fresh_iff : StatusSnapshot.partFresh part = true ↔ isBusy now.1 = false

theorem LastKnown.Remembers.observe {k : LastKnown α} (h : k.Remembers isBusy value polls) (p : Poll) :
    Observed.Reports (k.observe (attempt (isBusy p.1) (value p.2))).1 isBusy value polls p ∧
      (k.observe (attempt (isBusy p.1) (value p.2))).2.Remembers isBusy value (polls ++ [p]) := by
  cases hb : isBusy p.1 with
  | true =>
    have hlast : lastFree isBusy (polls ++ [p]) = lastFree isBusy polls := by rw [lastFree_concat, if_pos hb]
    have hstale : (k.observe (attempt true (value p.2))).1 = k.value.map (⟨·, .stale⟩) := rfl
    refine ⟨⟨?_, ?_⟩, ?_⟩
    · rw [hlast, ← h, hstale]
      cases k.value <;> rfl
    · rw [hb, hstale]
      cases k.value <;> exact iff_of_false Bool.false_ne_true (Bool.false_ne_true ∘ Eq.symm)
    · rw [Remembers, hlast]
      exact h
  | false =>
    have hlast : lastFree isBusy (polls ++ [p]) = some p.2 := by rw [lastFree_concat, hb]; rfl
    exact ⟨⟨by rw [hlast]; rfl, iff_of_true rfl hb⟩, by rw [Remembers, hlast]; rfl⟩

namespace StatusReader

/-- A reader that knew nothing before some polls. -/
def after (polls : List Poll) : StatusReader := polls.foldl (fun r p => (r.poll p.1 p.2).2) {}

/-- What a reader remembers of every part that it remembers. -/
structure Remembers (r : StatusReader) (polls : List Poll) : Prop where
  lanes : ∀ l, (r.lanes.get l).Remembers (·.lanes.get l) (fun j => (j.lanes.get l).snapshot l) polls
  scheduler : r.scheduler.Remembers (·.scheduler) (·.scheduler.snapshot) polls
  resources : r.resources.Remembers (·.resources) (·.allocator.snapshot) polls
  metrics : r.metrics.Remembers (·.metrics) (fun j => j.metrics.snapshot j.clock) polls

theorem observeLane_eq (r : StatusReader) (p : Poll) (l : Lane) :
    r.observeLane p.1 p.2 l = (r.lanes.get l).observe (attempt (p.1.lanes.get l) ((p.2.lanes.get l).snapshot l)) := by
  rw [observeLane, Junction.laneSnapshots, PerLane.get_ofFn]

/-- **One more poll**: what was remembered is shown where a part is busy, and what is read is remembered. -/
theorem Remembers.poll {r : StatusReader} (h : r.Remembers polls) (p : Poll) :
    (r.poll p.1 p.2).2.Remembers (polls ++ [p]) where
  lanes l := by
    rw [StatusReader.poll, PerLane.get_ofFn, observeLane_eq]
    exact ((h.lanes l).observe p).2
  scheduler := (h.scheduler.observe p).2
  resources := (h.resources.observe p).2
  metrics := (h.metrics.observe p).2

theorem after_remembers (polls : List Poll) : (after polls).Remembers polls := by
  induction polls using List.reverseRecOn with
  | nil => exact ⟨fun l => by rw [after, List.foldl_nil, PerLane.get_replicate]; rfl, rfl, rfl, rfl⟩
  | append_singleton polls p ih =>
    rw [after, List.foldl_concat, ← after]
    exact ih.poll p

end StatusReader

/-! ## Full freshness -/

/-- A status is fully fresh if the poll found every part free that the reader remembers. -/
theorem StatusSnapshot.isFullyFresh_iff {s : StatusSnapshot} {busy : Busy}
    (hl : ∀ l, partFresh (s.lanes.get l) = true ↔ busy.lanes.get l = false)
    (hs : partFresh s.scheduler = true ↔ busy.scheduler = false)
    (hr : partFresh s.resources = true ↔ busy.resources = false)
    (hm : partFresh s.metrics = true ↔ busy.metrics = false) :
    s.isFullyFresh = true ↔
      (∀ l, busy.lanes.get l = false) ∧ busy.scheduler = false ∧ busy.resources = false ∧ busy.metrics = false := by
  have hlanes : s.lanes.toList.all partFresh = true ↔ ∀ l, busy.lanes.get l = false := by
    rw [PerLane.toList_eq, List.all_map, List.all_eq_true]
    exact ⟨fun h l => (hl l).1 (h l (Lane.mem_all l)), fun h l _ => (hl l).2 (h l)⟩
  rw [isFullyFresh, Bool.and_eq_true, Bool.and_eq_true, Bool.and_eq_true, hlanes, hs, hr, hm, and_assoc, and_assoc]

theorem Busy.eq_empty_iff {busy : Busy} : busy = {} ↔
    ((∀ l, busy.lanes.get l = false) ∧ busy.scheduler = false ∧ busy.resources = false ∧ busy.metrics = false) ∧
      busy.emergencies = false := by
  constructor
  · rintro rfl
    exact ⟨⟨fun l => PerLane.get_replicate _ l, rfl, rfl, rfl⟩, rfl⟩
  · obtain ⟨lanes, scheduler, resources, metrics, emergencies⟩ := busy
    rintro ⟨⟨hl, rfl, rfl, rfl⟩, rfl⟩
    have hlanes : lanes = .replicate false := PerLane.ext_get fun l => (hl l).trans (PerLane.get_replicate false l).symm
    rw [hlanes]

namespace StatusReader

/-- **A status shows what was last read**, and a part is marked as fresh exactly if this poll found it free; this is said
of the lanes, the scheduler, the quadrants and the counters.  The pending emergencies are shown exactly if they are
free.  Full freshness is about the former parts only, so all of them were read exactly if the status is fully fresh and
shows the pending emergencies. -/
theorem poll_after (polls : List Poll) (busy : Busy) (j : Junction) :
    let s := ((after polls).poll busy j).1
    (∀ l, Observed.Reports (s.lanes.get l) (·.lanes.get l) (fun j => (j.lanes.get l).snapshot l) polls (busy, j)) ∧
    Observed.Reports s.scheduler (·.scheduler) (·.scheduler.snapshot) polls (busy, j) ∧
    Observed.Reports s.resources (·.resources) (·.allocator.snapshot) polls (busy, j) ∧
    Observed.Reports s.metrics (·.metrics) (fun j => j.metrics.snapshot j.clock) polls (busy, j) ∧
    (s.pendingEmergencies = if busy.emergencies then none else some j.emergencies.count) ∧
    (s.isFullyFresh = true ↔
      (∀ l, busy.lanes.get l = false) ∧ busy.scheduler = false ∧ busy.resources = false ∧ busy.metrics = false) ∧
    (s.isFullyFresh = true ∧ s.pendingEmergencies.isSome = true ↔ busy = {}) := by
  intro s
  have r := after_remembers polls
  have hl : ∀ l, Observed.Reports (s.lanes.get l) (·.lanes.get l) (fun j => (j.lanes.get l).snapshot l) polls
      (busy, j) := by
    intro l
    have hlane : s.lanes.get l = ((after polls).observeLane busy j l).1 := PerLane.get_ofFn ..
    rw [hlane, observeLane_eq _ (busy, j)]
    exact ((r.lanes l).observe (busy, j)).1
  have hs := (r.scheduler.observe (busy, j)).1
  have hr := (r.resources.observe (busy, j)).1
  have hm := (r.metrics.observe (busy, j)).1
  have hfresh := StatusSnapshot.isFullyFresh_iff (fun l => (hl l).fresh_iff) hs.fresh_iff hr.fresh_iff hm.fresh_iff
  have hpending : s.pendingEmergencies.isSome = true ↔ busy.emergencies = false := by
    show (attempt busy.emergencies j.emergencies.count).isSome = true ↔ _
    cases busy.emergencies with
    | true => exact iff_of_false Bool.false_ne_true (Bool.false_ne_true ∘ Eq.symm)
    | false => exact iff_of_true rfl rfl
  exact ⟨hl, hs, hr, hm, rfl, hfresh, by rw [hfresh, hpending, Busy.eq_empty_iff]⟩

/-- An emergency is looked up while it is pending, which keeps the pending emergencies busy: the status that is read
meanwhile is fully fresh, and lacks them. -/
theorem fullyFresh_without_emergencies :
    let j := (Blueprint.assemble { config := {} } {} 0).after [.arrive .south (some .police)]
    let s := ((after []).poll { emergencies := true } j).1
    j.Reachable Operation.Regular ∧
    ((peekReading {} .status).runOn j).1 = .ok (j.emergencies.next, [.status s]) ∧
    s.isFullyFresh = true ∧ s.pendingEmergencies = none ∧ j.emergencies.count = 1 := by
  intro j s
  have hbuilt : (Blueprint.assemble { config := {} } {} 0).Reachable Operation.Regular :=
    .built (b := { config := {} }) rfl
  refine ⟨hbuilt.next trivial, rfl, ?_, rfl, ?_⟩
  · decide +kernel
  · decide +kernel

end StatusReader
end Crossroads
