import Crossroads.LockThread
import Crossroads.Proofs.Locks.HeldLayers
import Mathlib.Data.List.Nodup
import Mathlib.Data.Multiset.Defs
/-!
# Held layers and guards

Whatever a thread locks, tries and drops, and whatever others do meanwhile, the layers that it holds are those of the
guards that it has (`LockThread.Sound`).  So the check of the order, which sees layers only, finds a breach exactly if a
guard is at or above the lock that is wanted (`LockThread.detectsBreaches_after`).
-/
namespace Crossroads
namespace LockThread

variable {μ : Type} {t t' : LockThread μ} {i : Nat} {k : CountingLock} {c : LockCall μ}

/-- The held layers are those of the guards, and the guards are of different locks, which are busy and of their
layers. -/
structure Sound (t : LockThread μ) : Prop where
  noted : t.held.Perm (t.guards.map LockGuard.layer)
  distinct : (t.guards.map LockGuard.lock).Nodup
  taken : ∀ g ∈ t.guards, ∃ k, t.locks[g.lock]? = some k ∧ k.layer = g.layer ∧ k.busy = true

inductive Comes (t : LockThread μ) : LockCall μ → LockThread μ → Prop where
  | stays {c : LockCall μ} {t' : LockThread μ} : t'.held = t.held → t'.guards = t.guards →
      (∀ g ∈ t.guards, t'.locks[g.lock]? = t.locks[g.lock]?) → Comes t c t'
  | takes {c : LockCall μ} {t' : LockThread μ} {i : Nat} {k : CountingLock} {f : CountingLock → CountingLock} :
      t.locks[i]? = some k → (∀ g ∈ t.guards, g.lock ≠ i) → (f k).layer = k.layer → (f k).busy = true →
      t'.locks = t.locks.modify i f → t'.held = t.held.acquire k.layer → t'.guards = t.guards ++ [⟨i, k.layer⟩] →
      Comes t c t'
  | drops {g : LockGuard} {t' : LockThread μ} {f : CountingLock → CountingLock} : g ∈ t.guards →
      t'.locks = t.locks.modify g.lock f → t'.held = t.held.letGo g.layer → t'.guards = t.guards.erase g →
      Comes t (.drop g) t'

theorem Sound.idle (locks : List CountingLock) (watchedBy : Nat → μ) (monitor : μ → Monitor) :
    Sound { locks, watchedBy, monitor } where
  noted := .refl _
  distinct := .nil
  taken _ hg := by cases hg

theorem Sound.nodup (h : t.Sound) : t.guards.Nodup := h.distinct.of_map LockGuard.lock

theorem Sound.lock_ne {g g' : LockGuard} (h : t.Sound) (hg : g ∈ t.guards) (hg' : g' ∈ t.guards.erase g) :
    g'.lock ≠ g.lock := by
  obtain ⟨hne, hmem⟩ := h.nodup.mem_erase_iff.1 hg'
  exact fun heq => hne (List.inj_on_of_nodup_map h.distinct hmem hg heq)

/-- **Every call leaves a thread sound.** -/
theorem Sound.comes (h : t.Sound) (hc : t.Comes c t') : t'.Sound := by
  cases hc with
  | stays hheld hguards hlocks =>
    refine ⟨?_, ?_, fun g hg => ?_⟩
    · rw [hheld, hguards]
      exact h.noted
    · rw [hguards]
      exact h.distinct
    · rw [hguards] at hg
      rw [hlocks g hg]
      exact h.taken g hg
  | @takes _ _ i k f hk hfree hlayer hbusy hlocks hheld hguards =>
    refine ⟨?_, ?_, fun g hg => ?_⟩
    · rw [hheld, hguards, List.map_append]
      exact h.noted.append_right [k.layer]
    · rw [hguards, List.map_append]
      refine List.nodup_append.2 ⟨h.distinct, List.nodup_singleton i, fun a ha b hb hab => ?_⟩
      obtain ⟨g, hg, rfl⟩ := List.mem_map.1 ha
      exact hfree g hg (hab.trans (List.mem_singleton.1 hb))
    · rw [hguards, List.mem_append, List.mem_singleton] at hg
      rcases hg with hg | rfl
      · rw [hlocks, List.getElem?_modify_ne _ _ (hfree g hg).symm]
        exact h.taken g hg
      · rw [hlocks, List.getElem?_modify_eq, hk]
        exact ⟨f k, rfl, hlayer, hbusy⟩
  | @drops g _ f hg hlocks hheld hguards =>
    refine ⟨?_, ?_, fun g' hg' => ?_⟩
    · rw [hheld, hguards]
      exact HeldLayers.letGo_perm (h.noted.trans ((List.perm_cons_erase hg).map LockGuard.layer))
    · rw [hguards]
      exact h.distinct.sublist (List.erase_sublist.map LockGuard.lock)
    · rw [hguards] at hg'
      rw [hlocks, List.getElem?_modify_ne _ _ (h.lock_ne hg hg').symm]
      exact h.taken g' (List.mem_of_mem_erase hg')

variable [DecidableEq μ]

/-! ## Calls -/

theorem comes_lock (hk : t.locks[i]? = some k) (hfree : ∀ g ∈ t.guards, g.lock ≠ i) :
    t.Comes (.lock i) (t.perform (.lock i)) := by
  by_cases hhalt : (t.monitor (t.watchedBy i)).strict = true ∧ t.held.obstacle k.layer ≠ none
  · obtain ⟨h, ho⟩ := Option.ne_none_iff_exists'.1 hhalt.2
    rw [perform_lock_of_halted hk ho hhalt.1]
    exact .stays rfl rfl fun _ _ => rfl
  · rw [perform_lock_of_not_halted hk hhalt]
    exact .takes hk hfree rfl rfl rfl rfl rfl

theorem Sound.comes_tryLock (h : t.Sound) (i : Nat) : t.Comes (.tryLock i) (t.perform (.tryLock i)) := by
  cases hk : t.locks[i]? with
  | none =>
    rw [perform_tryLock_of_none hk]
    exact .stays rfl rfl fun _ _ => rfl
  | some k =>
    cases hb : k.busy with
    | true =>
      rw [perform_tryLock_of_busy hk hb]
      exact .stays rfl rfl fun _ _ => rfl
    | false =>
      rw [perform_tryLock_of_free hk hb]
      refine .takes hk (fun g hg heq => ?_) rfl rfl rfl rfl rfl
      -- The lock of a guard is busy, and this one is not.
      obtain ⟨k', hk', -, hb'⟩ := h.taken g hg
      rw [heq, hk, Option.some.injEq] at hk'
      rw [hk', hb'] at hb
      cases hb

theorem Sound.perform_drop {g : LockGuard} (h : t.Sound) (hg : g ∈ t.guards) :
    t.perform (.drop g) =
      { t with
        locks := t.locks.modify g.lock fun k => { k with busy := false }
        held := t.held.letGo g.layer
        guards := t.guards.erase g } := by
  obtain ⟨k, hk, hlayer, hb⟩ := h.taken g hg
  rw [perform_drop_of_busy hk hb, hlayer]

theorem Sound.comes_perform (h : t.Sound) (hc : t.Can c) : t.Comes c (t.perform c) := by
  cases c with
  | lock i =>
    obtain ⟨hi, hfree⟩ := hc
    exact comes_lock (List.getElem?_eq_getElem hi) hfree
  | tryLock i => exact h.comes_tryLock i
  | drop g =>
    rw [h.perform_drop hc]
    exact .drops hc rfl rfl rfl
  | elsewhere locks monitor => exact .stays rfl rfl hc

theorem Sound.after : ∀ (calls : List (LockCall μ)) {t : LockThread μ}, t.Sound → t.Allows calls →
    (t.after calls).Sound
  | [], _, h, _ => h
  | _ :: calls, _, h, hc => Sound.after calls (h.comes (h.comes_perform hc.1)) hc.2

/-! ## Breaches -/

theorem recorded_ne (t : LockThread μ) (i : Nat) (v : Violation) : t.recorded i v ≠ t.monitor := by
  intro heq
  have hcount := congrArg Monitor.count (congrFun heq (t.watchedBy i))
  rw [recorded, Function.update_self] at hcount
  exact Nat.succ_ne_self _ hcount

omit [DecidableEq μ] in
theorem Sound.mem_held_iff (h : t.Sound) {l : Layer} : l ∈ t.held ↔ ∃ g ∈ t.guards, g.layer = l := by
  rw [h.noted.mem_iff, List.mem_map]

theorem Sound.monitor_lock_of_low (h : t.Sound) (hk : t.locks[i]? = some k)
    (hlow : ∀ g ∈ t.guards, g.layer.rank < k.layer.rank) : (t.perform (.lock i)).monitor = t.monitor := by
  have hclear : t.held.obstacle k.layer = none := HeldLayers.obstacle_eq_none_iff.2 fun x hx => by
    obtain ⟨g, hg, rfl⟩ := h.mem_held_iff.1 hx
    exact hlow g hg
  rw [LockThread.monitor_lock hk, hclear]
  rfl

/-- The breach that is recorded names the highest layer of a guard. -/
theorem Sound.exists_breach (h : t.Sound) (hk : t.locks[i]? = some k)
    (hg : ∃ g ∈ t.guards, k.layer.rank ≤ g.layer.rank) :
    ∃ g ∈ t.guards, (∀ g' ∈ t.guards, g'.layer.rank ≤ g.layer.rank) ∧
      (t.perform (.lock i)).monitor = t.recorded i (k.layer.breach g.layer) := by
  rw [LockThread.monitor_lock hk]
  cases ho : t.held.obstacle k.layer with
  | none =>
    obtain ⟨g, hg, hle⟩ := hg
    have hlt := HeldLayers.obstacle_eq_none_iff.1 ho g.layer (h.mem_held_iff.2 ⟨g, hg, rfl⟩)
    exact absurd hle (Nat.not_le_of_lt hlt)
  | some b =>
    obtain ⟨hmem, hall, -⟩ := HeldLayers.obstacle_eq_some_iff.1 ho
    obtain ⟨g, hg, rfl⟩ := h.mem_held_iff.1 hmem
    exact ⟨g, hg, fun g' hg' => hall _ (h.mem_held_iff.2 ⟨g', hg', rfl⟩), rfl⟩

/-- What the guards of a thread say of the layers that it holds and of what its next call records. -/
structure DetectsBreaches (t : LockThread μ) : Prop where
  held_eq : (t.held : Multiset Layer) = (t.guards.map LockGuard.layer : List Layer)
  held_eq_nil_iff : t.held = [] ↔ t.guards = []
  /-- A guard is of a lock that is taken, and of its layer. -/
  taken : ∀ g ∈ t.guards, ∃ k, t.locks[g.lock]? = some k ∧ k.layer = g.layer ∧ k.busy = true
  /-- One breach is recorded, where the lock is watched, exactly if a guard is at its layer or above. -/
  lock_records_iff : ∀ i k, t.locks[i]? = some k →
    ((∃ v : Violation, v.kind = .lockOrder ∧ (t.perform (.lock i)).monitor = t.recorded i v) ↔
      ∃ g ∈ t.guards, k.layer.rank ≤ g.layer.rank)
  lock_names_highest : ∀ i k, t.locks[i]? = some k → (∃ g ∈ t.guards, k.layer.rank ≤ g.layer.rank) →
    ∃ g ∈ t.guards, (∀ g' ∈ t.guards, g'.layer.rank ≤ g.layer.rank) ∧
      (t.perform (.lock i)).monitor = t.recorded i (k.layer.breach g.layer)
  lock_records_nothing : ∀ i k, t.locks[i]? = some k → (∀ g ∈ t.guards, g.layer.rank < k.layer.rank) →
    (t.perform (.lock i)).monitor = t.monitor
  tryLock_records_nothing : ∀ i, (t.perform (.tryLock i)).monitor = t.monitor
  drop_records_nothing : ∀ g, (t.perform (.drop g)).monitor = t.monitor

theorem Sound.detectsBreaches (h : t.Sound) : t.DetectsBreaches where
  held_eq := Multiset.coe_eq_coe.2 h.noted
  held_eq_nil_iff := by
    rw [← List.length_eq_zero_iff, h.noted.length_eq, List.length_map, List.length_eq_zero_iff]
  taken := h.taken
  lock_records_iff i k hk := by
    constructor
    · rintro ⟨v, -, heq⟩
      by_contra hno
      have hlow : ∀ g ∈ t.guards, g.layer.rank < k.layer.rank := fun g hg =>
        Nat.lt_of_not_le fun hle => hno ⟨g, hg, hle⟩
      exact t.recorded_ne i v (heq.symm.trans (h.monitor_lock_of_low hk hlow))
    · intro hg
      obtain ⟨g, -, -, heq⟩ := h.exists_breach hk hg
      exact ⟨k.layer.breach g.layer, rfl, heq⟩
  lock_names_highest _ _ hk := h.exists_breach hk
  lock_records_nothing _ _ hk := h.monitor_lock_of_low hk
  tryLock_records_nothing := t.monitor_tryLock
  drop_records_nothing := t.monitor_drop

/-- **Breaches of the order are detected exactly**: whatever a thread locks, tries and drops in whatever order, it holds
the layers of its guards, and a lock records one breach if a guard is at its layer or above, and nothing otherwise. -/
theorem detectsBreaches_after (locks : List CountingLock) (watchedBy : Nat → μ) (monitor : μ → Monitor)
    (calls : List (LockCall μ)) (h : ({ locks, watchedBy, monitor } : LockThread μ).Allows calls) :
    (({ locks, watchedBy, monitor } : LockThread μ).after calls).DetectsBreaches :=
  ((Sound.idle locks watchedBy monitor).after calls h).detectsBreaches

/-- Two locks of the lanes are taken, the second by trying, and the first is dropped while another thread has the
metrics; the lane that is left stands in the way of the metrics. -/
theorem detectsBreaches_after_tried :
    let t : LockThread Bool :=
      { locks := [{ layer := .lane }, { layer := .scheduler }, { layer := .lane }, { layer := .metrics }]
        watchedBy := fun i => i == 3
        monitor := fun _ => {} }
    let calls : List (LockCall Bool) := [.lock 0, .tryLock 1, .tryLock 2,
      .elsewhere [⟨.lane, 1, true⟩, ⟨.scheduler, 0, true⟩, ⟨.lane, 0, true⟩, ⟨.metrics, 7, true⟩] fun _ => {},
      .drop ⟨0, .lane⟩]
    t.Allows calls ∧ (t.after calls).DetectsBreaches ∧ (t.after calls).guards = [⟨1, .scheduler⟩, ⟨2, .lane⟩] ∧
      ((t.after calls).perform (.lock 3)).monitor true =
        { count := 1, log := [⟨.lockOrder, "acquiring metrics lock while holding lane lock"⟩] } :=
  ⟨by decide, detectsBreaches_after _ _ _ _ (by decide), rfl, by decide⟩

end LockThread
end Crossroads
