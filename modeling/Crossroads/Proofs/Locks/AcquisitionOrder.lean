import Crossroads.Proofs.Locks.Guards
/-!
# The order of held layers

The held layers are listed in the order in which the guards were given, until a guard is dropped that has a newer one of
its layer behind it and a guard of another layer between them: letting its layer go takes the newer entry, and the older
one stays in its place (`LockThread.held_out_of_order`).  Nothing else disturbs the order (`LockThread.inOrder_iff_clear`).
-/
namespace Crossroads

/-- No guard of another layer stands between a guard and a newer one of its own layer. -/
def LockGuard.ClearIn (g : LockGuard) (guards : List LockGuard) : Prop :=
  ∀ x h, [g, x, h].Sublist guards → h.layer = g.layer → x.layer = g.layer

instance (g : LockGuard) (guards : List LockGuard) : Decidable (g.ClearIn guards) :=
  decidable_of_iff
    (∀ x ∈ guards, ∀ h ∈ guards, [g, x, h].Sublist guards → h.layer = g.layer → x.layer = g.layer)
    ⟨fun hall x h hs => hall x (hs.subset (by simp)) h (hs.subset (by simp)) hs, fun hall x _ h _ => hall x h⟩

/-- Behind the first occurrence of an element stands what follows it. -/
theorem cons_sublist_append_cons_iff {α : Type} {a : α} {older newer xs : List α} (ha : a ∉ older) :
    (a :: xs).Sublist (older ++ a :: newer) ↔ xs.Sublist newer := by
  induction older with
  | nil => exact List.cons_sublist_cons
  | cons b older ih =>
    rw [List.mem_cons, not_or] at ha
    rw [← ih ha.2]
    exact ⟨List.Sublist.of_cons_of_ne ha.1, List.Sublist.cons b⟩

namespace LockGuard

theorem clearIn_append_cons_iff {older newer : List LockGuard} {g : LockGuard} (hold : g ∉ older) :
    g.ClearIn (older ++ g :: newer) ↔ ∀ x, [x, g.layer].Sublist (newer.map layer) → x = g.layer := by
  constructor
  · intro hc x hx
    obtain ⟨gs, hgs, heq⟩ := List.sublist_map_iff.1 hx
    obtain ⟨y, h, rfl⟩ : ∃ y h, gs = [y, h] := List.length_eq_two.1 (by simpa using (congrArg List.length heq).symm)
    obtain ⟨rfl, hh⟩ : x = y.layer ∧ g.layer = h.layer := by simpa using heq
    exact hc y h ((cons_sublist_append_cons_iff hold).2 hgs) hh.symm
  · intro hall x h hx hh
    have hmap := ((cons_sublist_append_cons_iff hold).1 hx).map layer
    rw [List.map_cons, List.map_cons, hh] at hmap
    exact hall x.layer hmap

/-- **Dropping a guard strikes its own entry off, or one that cannot be told from it**, exactly if no other layer stands
between it and the newest of its layer. -/
theorem letGo_eq_map_erase_iff {guards : List LockGuard} {g : LockGuard} (hg : g ∈ guards) :
    HeldLayers.letGo (guards.map layer) g.layer = (guards.erase g).map layer ↔ g.ClearIn guards := by
  obtain ⟨older, newer, rfl, hold⟩ := List.eq_append_cons_of_mem hg
  have herase : (older ++ g :: newer).erase g = older ++ newer := by
    rw [List.erase_append_right _ hold, List.erase_cons_head]
  rw [clearIn_append_cons_iff hold, herase, List.map_append, List.map_append, List.map_cons]
  by_cases hmem : g.layer ∈ newer.map layer
  · -- A newer entry goes, so what counts is whether that leaves the same list as if this one had gone.
    have hgo : HeldLayers.letGo (older.map layer ++ g.layer :: newer.map layer) g.layer =
        older.map layer ++ g.layer :: HeldLayers.letGo (newer.map layer) g.layer := by
      have h := HeldLayers.letGo_append_of_mem (older.map layer ++ [g.layer]) hmem
      rwa [List.append_assoc, List.append_assoc] at h
    rw [hgo, List.append_cancel_left_eq, eq_comm, HeldLayers.eq_cons_letGo_iff hmem]
  · refine iff_of_true (HeldLayers.letGo_append_of_not_mem _ hmem) fun x hx => ?_
    exact absurd (hx.subset (by simp)) hmem

end LockGuard

namespace LockThread

variable {μ : Type} {t t' : LockThread μ} {c : LockCall μ}

/-- The held layers are those of the guards in the order in which these were given. -/
def InOrder (t : LockThread μ) : Prop := t.held = t.guards.map LockGuard.layer

instance (t : LockThread μ) : Decidable t.InOrder := inferInstanceAs (Decidable (_ = _))

theorem InOrder.comes (h : t.InOrder) (hc : t.Comes c t') (hg : ∀ g, c = .drop g → g.ClearIn t.guards) : t'.InOrder := by
  cases hc with
  | stays hheld hguards =>
    rw [InOrder, hheld, hguards]
    exact h
  | takes _ _ _ _ _ hheld hguards =>
    rw [InOrder, hheld, hguards, h, List.map_append]
    rfl
  | drops hmem _ hheld hguards =>
    rw [InOrder, hheld, hguards, h]
    exact (LockGuard.letGo_eq_map_erase_iff hmem).2 (hg _ rfl)

variable [DecidableEq μ]

theorem Sound.inOrder_drop_iff {g : LockGuard} (h : t.Sound) (ho : t.InOrder) (hg : g ∈ t.guards) :
    (t.perform (.drop g)).InOrder ↔ g.ClearIn t.guards := by
  rw [h.perform_drop hg, InOrder, ho]
  exact LockGuard.letGo_eq_map_erase_iff hg

theorem InOrder.after : ∀ (calls : List (LockCall μ)) {t : LockThread μ}, t.InOrder → t.Sound → t.Allows calls →
    (∀ before g, before ++ [.drop g] <+: calls → g.ClearIn (t.after before).guards) → (t.after calls).InOrder
  | [], _, ho, _, _, _ => ho
  | c :: calls, t, ho, h, hc, hclear => by
    have hcomes : t.Comes c (t.perform c) := h.comes_perform hc.1
    have hnow : ∀ g, c = .drop g → g.ClearIn t.guards := by
      rintro g rfl
      exact hclear [] g (List.prefix_append [_] calls)
    have hrest : ∀ before g, before ++ [.drop g] <+: calls → g.ClearIn ((t.perform c).after before).guards :=
      fun before g hg => hclear (c :: before) g ((List.prefix_cons_inj c).2 hg)
    exact InOrder.after calls (ho.comes hcomes hnow) (h.comes hcomes) hc.2 hrest

/-- **Held layers stay in the order in which the guards were given** exactly as long as no guard is dropped that has a
newer one of its layer behind it and one of another layer between them. -/
theorem inOrder_iff_clear (locks : List CountingLock) (watchedBy : Nat → μ) (monitor : μ → Monitor)
    (calls : List (LockCall μ)) (h : ({ locks, watchedBy, monitor } : LockThread μ).Allows calls) :
    (∀ before, before <+: calls → (({ locks, watchedBy, monitor } : LockThread μ).after before).InOrder) ↔
      ∀ before g, before ++ [.drop g] <+: calls →
        g.ClearIn (({ locks, watchedBy, monitor } : LockThread μ).after before).guards := by
  have hs : ({ locks, watchedBy, monitor } : LockThread μ).Sound := .idle locks watchedBy monitor
  constructor
  · rintro hall before g ⟨rest, rfl⟩
    rw [allows_append, allows_append] at h
    obtain ⟨⟨hbefore, hg, -⟩, -⟩ := h
    have hnow := hall before (by simp)
    have hnext := hall (before ++ [.drop g]) (List.prefix_append _ rest)
    rw [after_concat] at hnext
    exact ((hs.after before hbefore).inOrder_drop_iff hnow hg).1 hnext
  · rintro hclear before ⟨rest, rfl⟩
    exact InOrder.after before rfl hs (allows_append.1 h).1 fun older g hg =>
      hclear older g (hg.trans (List.prefix_append before rest))

/-- Of two guards of the lanes with nothing between them the older one is dropped. -/
theorem inOrder_iff_clear_lanes :
    let t : LockThread Unit :=
      { locks := [{ layer := .metrics }, { layer := .lane }, { layer := .lane }]
        watchedBy := fun _ => ()
        monitor := fun _ => {} }
    let calls : List (LockCall Unit) := [.lock 0, .lock 1, .tryLock 2, .drop ⟨1, .lane⟩]
    t.Allows calls ∧ (∀ before, before <+: calls → (t.after before).InOrder) ∧
      (t.after calls).held = [.metrics, .lane] := by
  intro t calls
  have hallows : t.Allows calls := by decide
  refine ⟨hallows, (inOrder_iff_clear _ _ _ _ hallows).2 ?_, rfl⟩
  rintro before g ⟨rest, heq⟩
  -- The run drops one guard, after its first three calls.
  rcases before with _ | ⟨a, _ | ⟨b, _ | ⟨c, _ | ⟨d, before⟩⟩⟩⟩ <;> simp [calls] at heq
  obtain ⟨rfl, rfl, rfl, rfl, -⟩ := heq
  decide

/-- **Held layers may get out of the order in which the guards were given**: a guard of the lanes is dropped that has one
of the scheduler and another of the lanes behind it. -/
theorem held_out_of_order :
    let t : LockThread Unit :=
      { locks := [{ layer := .lane }, { layer := .scheduler }, { layer := .lane }]
        watchedBy := fun _ => ()
        monitor := fun _ => {} }
    let calls : List (LockCall Unit) := [.lock 0, .tryLock 1, .tryLock 2, .drop ⟨0, .lane⟩]
    t.Allows calls ∧ (t.after calls).guards = [⟨1, .scheduler⟩, ⟨2, .lane⟩] ∧
      (t.after calls).held = [.lane, .scheduler] ∧ ¬ (t.after calls).InOrder ∧ (t.after calls).monitor () = {} :=
  ⟨by decide, rfl, rfl, by decide, rfl⟩

end LockThread
end Crossroads
