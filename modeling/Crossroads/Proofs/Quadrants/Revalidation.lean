import Crossroads.Proofs.Quadrants.Availability
import Crossroads.Proofs.Quadrants.Contract
import Crossroads.Proofs.Traffic.Tidy
/-!
# Blocked lanes are tried once

A lane is denied what is pending for it because too little is free, or because some other lanes are stuck.  A grant to
one more lane makes less free, and it goes to none of the stuck lanes, as each of them needs more than is free.  So it
is of no use to a lane that was denied before (`Allocator.not_grantable_grant`): one pass over the blocked lanes reaches
a state in which another pass does nothing (`Junction.revalidated_reachable`).
-/
namespace Crossroads

open Act

variable {total n : Nat} {held need : PerLane Nat} {l m : Lane} {ls on : List Lane} {j i : Junction}

/-- Being stuck depends on the stuck lanes only. -/
theorem StuckSet.congr (s : StuckSet total held need ls) {held' need' : PerLane Nat}
    (hheld : ∀ l ∈ ls, held'.get l = held.get l) (hneed : ∀ l ∈ ls, need'.get l = need.get l) :
    StuckSet total held' need' ls where
  ne_nil := s.ne_nil
  sub := s.sub
  short l hl := by
    rw [PerLane.sumOver_congr hheld, hneed l hl]
    exact s.short l hl

/-! ## Retries -/

namespace Allocator

variable {a : Allocator}

/-- What is pending for a lane can be met, if anything is. -/
def Readmits (a : Allocator) (l : Lane) : Prop := a.request.get l = 0 ∨ a.Grantable l (a.request.get l)

def regrant (a : Allocator) (l : Lane) : Allocator := a.grant l (a.request.get l)

theorem regrant_of_zero (h : a.request.get l = 0) : a.regrant l = a := by
  have hheld : a.allocation.modify l (· + a.request.get l) = a.allocation := by
    rw [h]
    exact PerLane.set_get _ _
  have hpending : a.request.set l 0 = a.request := by
    rw [← h]
    exact PerLane.set_get _ _
  rw [regrant, grant, hheld, hpending]

theorem pend_pending (a : Allocator) (l : Lane) : a.pend l (a.request.get l) = a := by
  rw [pend, PerLane.set_get]

theorem get_regrant_self (a : Allocator) (l : Lane) : (a.regrant l).request.get l = 0 ∧
    (a.regrant l).allocation.get l = a.allocation.get l + a.request.get l :=
  ⟨PerLane.get_set_self _ _ _, PerLane.get_set_self _ _ _⟩

theorem get_regrant_of_ne (a : Allocator) (h : m ≠ l) : (a.regrant l).request.get m = a.request.get m ∧
    (a.regrant l).allocation.get m = a.allocation.get m :=
  ⟨PerLane.get_set_of_ne _ _ h, PerLane.get_set_of_ne _ _ h⟩

theorem retryPending_of_readmits (h : a.Readmits l) : ∃ granted, a.retryPending l = (.ok granted, a.regrant l) := by
  rcases a.retryPending_cases l with ⟨h0, e⟩ | ⟨hpos, e⟩
  · exact ⟨none, by rw [e, regrant_of_zero h0]⟩
  · have g : a.Grantable l (a.request.get l) := h.resolve_left (Nat.one_le_iff_ne_zero.1 hpos)
    have hok := ok_of_grantable g
    rw [e, (granted_of_ok hok).2.1, hok]
    exact ⟨_, rfl⟩

/-- **A retry that fails changes nothing**: what was denied was pending already. -/
theorem retryPending_of_not_readmits (hb : a.Bounded) (h : ¬ a.Readmits l) :
    ∃ e, a.retryPending l = (.error e, a) := by
  rcases a.retryPending_cases l with ⟨h0, -⟩ | ⟨hpos, e⟩
  · exact absurd (.inl h0) h
  · have hasked := hb.asked l
    rcases a.requestQuadrants_cases l (a.request.get l) with ⟨h0, -⟩ | ⟨-, hbeyond, -⟩ | ⟨-, -, -, e'⟩ | ⟨g, -⟩
    · omega
    · omega
    · rw [e', pend_pending] at e
      exact ⟨_, e⟩
    · exact absurd (.inr g) h

theorem Bounded.regrant (hb : a.Bounded) (h : a.Readmits l) : (a.regrant l).Bounded := by
  rcases h with h0 | g
  · rwa [regrant_of_zero h0]
  · exact hb.grant g

/-- **A grant to one lane makes no denied request of another one grantable.** -/
theorem not_grantable_grant (gm : a.Grantable m (a.request.get m)) (hlm : l ≠ m) (h : ¬ a.Grantable l n) :
    ¬ (a.grant m (a.request.get m)).Grantable l n := by
  intro g
  have hle := sum_grant_le (l := m) gm.pos gm.free
  have hsum := a.sum_grant m (a.request.get m)
  have hfits : a.allocation.get l + n ≤ a.total := by
    have hfits := g.fits
    rwa [grant_allocation, PerLane.get_set_of_ne _ _ hlm] at hfits
  have hfree : n ≤ a.available := by
    have hfree : n ≤ a.total - (a.grant m (a.request.get m)).allocation.sum := g.free
    rw [available]
    omega
  have hunsafe : (a.grant l n).safe = false :=
    Bool.eq_false_iff.2 fun hsafe => h ⟨g.pos, hfits, hfree, safe_grant_iff.1 hsafe⟩
  obtain ⟨ls, hl, s⟩ := exists_stuckSet_of_unsafe_grant g.pos hfree hunsafe
  -- the lane that is granted has enough with what is free, so it is not stuck
  have hm : m ∉ ls := fun hm => Nat.not_lt.2 gm.free (s.lt_need (by omega) hm)
  have hne : ∀ k ∈ ls, k ≠ l ∧ k ≠ m := fun k hk => ⟨fun e => hl (e ▸ hk), fun e => hm (e ▸ hk)⟩
  have hheld : ∀ k ∈ ls, ((a.grant m (a.request.get m)).grant l n).allocation.get k = a.allocation.get k := fun k hk =>
    (PerLane.get_set_of_ne _ _ (hne k hk).1).trans (PerLane.get_set_of_ne _ _ (hne k hk).2)
  have hneed : ∀ k ∈ ls, ((a.grant m (a.request.get m)).grant l n).request.get k = a.request.get k := fun k hk =>
    (PerLane.get_set_of_ne _ _ (hne k hk).1).trans (PerLane.get_set_of_ne _ _ (hne k hk).2)
  have hsafe : ((a.grant m (a.request.get m)).grant l n).safe = true := safe_grant_iff.2 g.finishes
  exact Bool.eq_false_iff.1 (s.congr hheld hneed).isSafe_eq_false hsafe

theorem not_readmits_regrant (hm : a.Readmits m) (hlm : l ≠ m) (hl : ¬ a.Readmits l) : ¬ (a.regrant m).Readmits l := by
  rcases hm with h0 | gm
  · rwa [regrant_of_zero h0]
  · rintro (h0 | g)
    · rw [(a.get_regrant_of_ne hlm).1] at h0
      exact hl (.inl h0)
    · rw [(a.get_regrant_of_ne hlm).1] at g
      exact not_grantable_grant gm hlm (fun g' => hl (.inr g')) g

end Allocator

/-! ## Lanes -/

/-- A blocked lane as it goes on with so many quadrants. -/
def Approach.readmitted (a : Approach) (held : Nat) : Approach :=
  (a.setQuadrants held 0).enter (a.setQuadrants held 0).yieldState

theorem Approach.unblock_setQuadrants {a : Approach} (h : a.state = .blocked) (l : Lane) (held : Nat) :
    (a.setQuadrants held 0).unblock l = .ok (a.readmitted held) := by
  unfold unblock
  have hblocked : (a.setQuadrants held 0).state = .blocked := h
  rw [if_pos hblocked]
  exact transition_yield l (.inr hblocked)

theorem Approach.readmitted_state {a : Approach} (h : a.traffic.Cached) (held : Nat) :
    (a.readmitted held).state = if a.queue.isEmpty then .waiting else .ready := by
  show (if 0 < a.queueLength then LaneState.ready else .waiting) = _
  have hempty := queue_isEmpty_iff h
  by_cases h0 : a.queueLength = 0
  · rw [if_neg (Nat.not_lt.2 (Nat.le_of_eq h0)), if_pos (hempty.2 h0)]
  · rw [if_pos (Nat.pos_of_ne_zero h0), if_neg fun he => h0 (hempty.1 he)]

namespace Junction

/-- The junction once a lane goes on with what was pending for it. -/
def readmitted (j : Junction) (l : Lane) : Junction :=
  { j with
    allocator := j.allocator.regrant l
    lanes := j.lanes.set l ((j.lanes.get l).readmitted ((j.allocator.regrant l).allocation.get l)) }

theorem isBlocked_congr (h : i.lanes.get l = j.lanes.get l) : i.isBlocked l = j.isBlocked l := by
  rw [isBlocked, isBlocked, h]

end Junction

theorem runOn_revalidate_of_readmits (hb : j.isBlocked l = true) (h : j.allocator.Readmits l) :
    (revalidate l).runOn j = (.ok true, j.readmitted l) := by
  obtain ⟨granted, hretry⟩ := Allocator.retryPending_of_readmits h
  have hblocked : (j.lanes.get l).state = .blocked := of_decide_eq_true hb
  have hunblock : (tryOnLane l (fun a => a.unblock l)).runOn { j with
      allocator := j.allocator.regrant l
      lanes := j.lanes.set l ((j.lanes.get l).setQuadrants ((j.allocator.regrant l).allocation.get l) 0) } =
        (.ok (), j.readmitted l) := by
    rw [runOn_tryOnLane, PerLane.get_set_self, Approach.unblock_setQuadrants hblocked]
    dsimp only
    rw [PerLane.set_set]
    rfl
  unfold revalidate
  rw [runOn_bind_of_ok (runOn_get j), if_pos hb, runOn_bind_of_ok (runOn_onAllocator _ j), hretry, settleRetry,
    runOn_bind_of_ok (runOn_get _), runOn_bind_of_ok (runOn_onLane ..), runOn_bind_of_ok hunblock]
  rfl

theorem runOn_revalidate_of_not (hbound : j.allocator.Bounded) (h : ¬ (j.isBlocked l = true ∧ j.allocator.Readmits l)) :
    (revalidate l).runOn j = (.ok false, j) := by
  cases hb : j.isBlocked l with
  | false =>
    unfold revalidate
    rw [runOn_bind_of_ok (runOn_get j), hb]
    rfl
  | true =>
    obtain ⟨e, hretry⟩ := Allocator.retryPending_of_not_readmits hbound fun hr => h ⟨hb, hr⟩
    rw [runOn_revalidate_of_error hbound hb (congrArg Prod.fst hretry), hretry]

/-! ## Passes over some lanes -/

/-- What trying some lanes one after the other comes to: the lanes that go on, and the junction afterwards. -/
inductive Readmission : List Lane → Junction → List Lane → Junction → Prop where
  | nil {j : Junction} : Readmission [] j [] j
  /-- A blocked lane goes on with what was pending for it. -/
  | goOn {l : Lane} {ls on : List Lane} {j i : Junction} : j.isBlocked l = true → j.allocator.Readmits l →
    Readmission ls (j.readmitted l) on i → Readmission (l :: ls) j (l :: on) i
  /-- A lane is not blocked, or it is denied what is pending for it. -/
  | skip {l : Lane} {ls on : List Lane} {j i : Junction} : ¬ (j.isBlocked l = true ∧ j.allocator.Readmits l) →
    Readmission ls j on i → Readmission (l :: ls) j on i

namespace Readmission

theorem exists_of : ∀ (ls : List Lane) (j : Junction), ∃ on i, Readmission ls j on i
  | [], j => ⟨[], j, .nil⟩
  | l :: ls, j => by
    by_cases h : j.isBlocked l = true ∧ j.allocator.Readmits l
    · obtain ⟨on, i, hr⟩ := exists_of ls (j.readmitted l)
      exact ⟨l :: on, i, .goOn h.1 h.2 hr⟩
    · obtain ⟨on, i, hr⟩ := exists_of ls j
      exact ⟨on, i, .skip h hr⟩

theorem runOn (h : Readmission ls j on i) (hbound : j.allocator.Bounded) :
    (collectLanes revalidate ls).runOn j = (.ok on, i) := by
  induction h with
  | nil => rfl
  | goOn hb hr _ ih =>
    rw [collectLanes, runOn_bind_of_ok (runOn_revalidate_of_readmits hb hr), runOn_bind_of_ok (ih (hbound.regrant hr))]
    rfl
  | skip hnot _ ih =>
    rw [collectLanes, runOn_bind_of_ok (runOn_revalidate_of_not hbound hnot), runOn_bind_of_ok (ih hbound)]
    rfl

theorem sublist (h : Readmission ls j on i) : on.Sublist ls := by
  induction h with
  | nil => exact .refl _
  | goOn _ _ _ ih => exact ih.cons_cons _
  | skip _ _ ih => exact ih.cons _

theorem frame (h : Readmission ls j on i) : i = { j with lanes := i.lanes, allocator := i.allocator } := by
  induction h with
  | nil => rfl
  | goOn _ _ _ ih => exact ih
  | skip _ _ ih => exact ih

theorem kept (h : Readmission ls j on i) (hl : l ∉ on) : i.lanes.get l = j.lanes.get l ∧
    i.allocator.allocation.get l = j.allocator.allocation.get l ∧
      i.allocator.request.get l = j.allocator.request.get l := by
  induction h with
  | nil => exact ⟨rfl, rfl, rfl⟩
  | @goOn k ls on j i _ _ _ ih =>
    obtain ⟨hne, hl⟩ := not_or.1 (fun h => hl (List.mem_cons.2 h))
    obtain ⟨hlane, hheld, hpending⟩ := ih hl
    obtain ⟨hrequest, hallocation⟩ := j.allocator.get_regrant_of_ne hne
    exact ⟨hlane.trans (PerLane.get_set_of_ne _ _ hne), hheld.trans hallocation, hpending.trans hrequest⟩
  | skip _ _ ih => exact ih hl

/-- A lane that goes on was blocked, and has what was pending for it. -/
structure Goes (j i : Junction) (l : Lane) : Prop where
  blocked : j.isBlocked l = true
  gained : i.allocator.allocation.get l = j.allocator.allocation.get l + j.allocator.request.get l
  cleared : i.allocator.request.get l = 0
  lane : i.lanes.get l = (j.lanes.get l).readmitted (i.allocator.allocation.get l)

theorem goes (h : Readmission ls j on i) (hnodup : ls.Nodup) (hl : l ∈ on) : Goes j i l := by
  induction h with
  | nil => cases hl
  | @goOn k ls on j i hb _ hrest ih =>
    obtain ⟨hk, hnodup⟩ := List.nodup_cons.1 hnodup
    obtain ⟨hrequest, hallocation⟩ := j.allocator.get_regrant_self k
    rcases List.mem_cons.1 hl with rfl | hl
    · -- the rest of the pass leaves the lane alone
      obtain ⟨hlane, hheld, hpending⟩ := hrest.kept fun hl => hk (hrest.sublist.subset hl)
      have hget : (j.readmitted l).lanes.get l = _ := PerLane.get_set_self _ _ _
      exact ⟨hb, hheld.trans hallocation, hpending.trans hrequest, by rw [hlane, hget, hheld]; rfl⟩
    · have hne : l ≠ k := fun e => hk (e ▸ hrest.sublist.subset hl)
      have hlane : (j.readmitted k).lanes.get l = j.lanes.get l := PerLane.get_set_of_ne _ _ hne
      obtain ⟨hrequest, hallocation⟩ := j.allocator.get_regrant_of_ne hne
      obtain ⟨hblocked, hgained, hcleared, hgoes⟩ := ih hnodup hl
      rw [Junction.isBlocked_congr hlane] at hblocked
      rw [hlane] at hgoes
      exact ⟨hblocked, hgained.trans (congrArg₂ _ hallocation hrequest), hcleared, hgoes⟩
  | skip _ _ ih => exact ih (List.nodup_cons.1 hnodup).2 hl

theorem Goes.unblocked (h : Goes j i l) : i.isBlocked l = false := by
  rw [Junction.isBlocked, h.lane]
  refine decide_eq_false ?_
  show (if 0 < (j.lanes.get l).queueLength then LaneState.ready else .waiting) ≠ .blocked
  split <;> decide

/-- The grants of a pass are of no use to a lane that is denied. -/
theorem not_readmits (h : Readmission ls j on i) (hl : l ∉ ls) (hdenied : ¬ j.allocator.Readmits l) :
    ¬ i.allocator.Readmits l := by
  induction h with
  | nil => exact hdenied
  | goOn _ hr _ ih =>
    obtain ⟨hne, hl⟩ := not_or.1 (fun h => hl (List.mem_cons.2 h))
    exact ih hl (Allocator.not_readmits_regrant hr hne hdenied)
  | skip _ _ ih => exact ih (fun h => hl (List.mem_cons_of_mem _ h)) hdenied

/-- **A lane that is still blocked after a pass would be denied again.** -/
theorem denied (h : Readmission ls j on i) (hnodup : ls.Nodup) (hl : l ∈ ls) (hb : i.isBlocked l = true) :
    ¬ i.allocator.Readmits l := by
  induction h with
  | nil => cases hl
  | @goOn k ls on j i hbk hrk hrest ih =>
    obtain ⟨hk, hnodup'⟩ := List.nodup_cons.1 hnodup
    rcases List.mem_cons.1 hl with rfl | hl
    · have hgoes := (goOn hbk hrk hrest).goes hnodup List.mem_cons_self
      rw [hgoes.unblocked] at hb
      cases hb
    · exact ih hnodup' hl hb
  | @skip k ls on j i hnot hrest ih =>
    obtain ⟨hk, hnodup⟩ := List.nodup_cons.1 hnodup
    rcases List.mem_cons.1 hl with rfl | hl
    · -- the lane was passed over while it was blocked, so it was denied
      obtain ⟨hlane, -⟩ := hrest.kept fun hl => hk (hrest.sublist.subset hl)
      rw [Junction.isBlocked_congr hlane] at hb
      exact hrest.not_readmits hk fun hr => hnot ⟨hb, hr⟩
    · exact ih hnodup hl hb

theorem answered (h : Readmission ls j on i) (hnodup : ls.Nodup) :
    on = ls.filter (fun l => j.isBlocked l && !i.isBlocked l) := by
  have hmem : ∀ l, l ∈ on ↔ l ∈ ls.filter (fun l => j.isBlocked l && !i.isBlocked l) := fun l => by
    rw [List.mem_filter]
    refine ⟨fun hl => ⟨h.sublist.subset hl, ?_⟩, fun ⟨_, hp⟩ => Classical.byContradiction fun hl => ?_⟩
    · have hgoes := h.goes hnodup hl
      rw [hgoes.blocked, hgoes.unblocked]
      rfl
    · rw [Junction.isBlocked_congr (h.kept hl).1, Bool.and_not_self] at hp
      cases hp
  have hsub : on.Sublist (ls.filter (fun l => j.isBlocked l && !i.isBlocked l)) := by
    have hfilter := h.sublist.filter (fun l => j.isBlocked l && !i.isBlocked l)
    rwa [List.filter_eq_self.2 fun l hl => (List.mem_filter.1 ((hmem l).1 hl)).2] at hfilter
  have hperm := (List.perm_ext_iff_of_nodup (h.sublist.nodup hnodup) (hnodup.filter _)).2 hmem
  exact hsub.eq_of_length hperm.length_eq

theorem nothing : ∀ {ls : List Lane}, (∀ l ∈ ls, ¬ (j.isBlocked l = true ∧ j.allocator.Readmits l)) →
    Readmission ls j [] j
  | [], _ => .nil
  | l :: _, h => .skip (h l List.mem_cons_self) (nothing fun m hm => h m (List.mem_cons_of_mem _ hm))

end Readmission

/-! ## The pass over all lanes -/

namespace Junction

theorem Reachable.bounded {allowed : Operation → Prop} (h : j.Reachable allowed) : j.allocator.Bounded := by
  induction h with
  | built hb =>
    rw [Blueprint.eq_assemble hb]
    exact Allocator.Bounded.fresh
  | @next j op _ _ ih => exact (op.becomes j).bounded ih

/-- What trying the blocked lanes comes to: the lanes that go on, and the junction afterwards. -/
structure Revalidated (j : Junction) (on : List Lane) (i : Junction) : Prop where
  /-- The lanes that were blocked and are not any more, in their order. -/
  answered : on = Lane.all.filter (fun l => j.isBlocked l && !i.isBlocked l)
  gained : ∀ l ∈ on, i.allocator.allocation.get l = j.allocator.allocation.get l + j.allocator.request.get l
  cleared : ∀ l ∈ on, i.allocator.request.get l = 0
  state : ∀ l ∈ on, (i.lanes.get l).state = if (j.lanes.get l).queue.isEmpty then .waiting else .ready
  queue : ∀ l ∈ on, (i.lanes.get l).queue = (j.lanes.get l).queue
  /-- Every other lane stays as it is, with what it holds and what is pending for it. -/
  kept : ∀ l, l ∉ on → i.lanes.get l = j.lanes.get l ∧
    i.allocator.allocation.get l = j.allocator.allocation.get l ∧ i.allocator.request.get l = j.allocator.request.get l
  frame : i = { j with lanes := i.lanes, allocator := i.allocator }
  /-- A lane that is still blocked cannot be given what is pending for it, after all the grants. -/
  denied : ∀ l, i.isBlocked l = true →
    0 < i.allocator.request.get l ∧ ¬ i.allocator.Grantable l (i.allocator.request.get l)
  /-- Trying again at once does nothing. -/
  again : Operation.revalidate.runOn i = (.ok (.lanes []), i)

/-- **One pass over the blocked lanes is exact, and enough**, whatever was done to the junction before. -/
theorem revalidated_reachable (h : j.Reachable (fun _ => True)) :
    ∃ on i, Operation.revalidate.runOn j = (.ok (.lanes on), i) ∧ j.Revalidated on i := by
  have hnodup : Lane.all.Nodup := by decide
  obtain ⟨on, i, hr⟩ := Readmission.exists_of Lane.all j
  have hrun : Operation.revalidate.runOn j = (.ok (.lanes on), i) := by
    rw [Operation.runOn_revalidate, revalidateBlocked, hr.runOn h.bounded]
    rfl
  have hbound : i.allocator.Bounded := by
    have hnext : i = Operation.next j .revalidate := (congrArg Prod.snd hrun).symm
    rw [hnext]
    exact (h.next trivial).bounded
  have hdenied : ∀ l, i.isBlocked l = true → ¬ i.allocator.Readmits l := fun l => hr.denied hnodup l.mem_all
  refine ⟨on, i, hrun, hr.answered hnodup, fun l hl => (hr.goes hnodup hl).gained,
    fun l hl => (hr.goes hnodup hl).cleared, fun l hl => ?_, fun l hl => ?_, fun l hl => hr.kept hl, hr.frame,
    fun l hb => ?_, ?_⟩
  · rw [(hr.goes hnodup hl).lane, Approach.readmitted_state (j.cached_lane h.tidy.cached l)]
  · rw [(hr.goes hnodup hl).lane]
    rfl
  · obtain ⟨hpending, hnot⟩ := not_or.1 (hdenied l hb)
    exact ⟨Nat.pos_of_ne_zero hpending, hnot⟩
  · have hnothing : Readmission Lane.all i [] i := .nothing fun l _ hboth => hdenied l hboth.1 hboth.2
    rw [Operation.runOn_revalidate, revalidateBlocked, hnothing.runOn hbound]
    rfl

/-- The south and the east were denied two and three quadrants while the north held all of them, and the west is blocked
by hand.  The south goes on with two, the west with none, and the east stays blocked. -/
theorem revalidated_reachable_south : ∃ j i : Junction,
    Operation.revalidate.runOn j = (.ok (.lanes [.south, .west]), i) ∧ i.allocator.allocation.get .south = 2 ∧
      ¬ i.allocator.Grantable .east 3 ∧ Operation.revalidate.runOn i = (.ok (.lanes []), i) := by
  let j₀ : Junction := Blueprint.assemble { config := {} } {} 0
  let ops : List Operation := [.request .north 4, .request .south 2, .request .east 3, .setState .south .blocked,
    .setState .east .blocked, .setState .west .blocked, .release .north]
  have hbuilt : j₀.Reachable (fun _ => True) := .built (b := { config := {} }) rfl
  obtain ⟨on, i, hrun, hi⟩ := revalidated_reachable (hbuilt.after ops fun _ _ => trivial)
  have hanswer : (Operation.revalidate.runOn (j₀.after ops)).1 = .ok (.lanes [.south, .west]) := by decide +kernel
  have heast : (Operation.next (j₀.after ops) .revalidate).isBlocked .east = true ∧
      (Operation.next (j₀.after ops) .revalidate).allocator.request.get .east = 3 := by decide +kernel
  rw [Operation.next, hrun] at heast
  obtain ⟨-, hdenied⟩ := hi.denied .east heast.1
  rw [hrun] at hanswer
  cases hanswer
  refine ⟨_, i, hrun, (hi.gained .south List.mem_cons_self).trans (by decide +kernel), ?_, hi.again⟩
  rwa [heast.2] at hdenied

end Junction

end Crossroads
