import Crossroads.LockYard
import Crossroads.Proofs.Locks.HeldLayers
import Mathlib.Data.List.Nodup
/-!
# What threads and locks know of each other

The layers a thread has noted are those of its guards, whatever the order in which guards come and go, and a lock
belongs to the thread that has its guard or is about to note it or to give it back (`LockYard.Sound`).  A thread that is
alone in a yard does what a row of locks does (`LockYard.Shows`).
-/
namespace Crossroads

variable {ι κ : Type} {layer : κ → Layer} {u v : LockUser κ} {k m : κ}

/-! ## One thread -/

namespace LockUser

/-- The noted layers are those of the guards, and a lock that is on its way has no guard. -/
structure Sound (layer : κ → Layer) (u : LockUser κ) : Prop where
  noted : u.held.Perm (u.guards.map layer)
  distinct : u.guards.Nodup
  apart : ∀ k, u.phase = .notes k ∨ u.phase = .returns k → k ∉ u.guards

theorem holds_iff_of_free (h : u.phase = .free) : u.Holds k ↔ k ∈ u.guards := by
  simp [Holds, h]

theorem holds_iff_of_waits (h : u.phase = .waits m) : u.Holds k ↔ k ∈ u.guards := by
  simp [Holds, h]

theorem holds_iff_of_notes (h : u.phase = .notes m) : u.Holds k ↔ k = m ∨ k ∈ u.guards := by
  simp [Holds, h, or_comm, eq_comm]

theorem holds_iff_of_returns (h : u.phase = .returns m) : u.Holds k ↔ k = m ∨ k ∈ u.guards := by
  simp [Holds, h, or_comm, eq_comm]

theorem Sound.phase (h : u.Sound layer) {p : LockPhase κ} (hp : ∀ k, p = .notes k ∨ p = .returns k → k ∉ u.guards) :
    ({ u with phase := p } : LockUser κ).Sound layer := ⟨h.noted, h.distinct, hp⟩

theorem Sound.noting (h : u.Sound layer) (hp : u.phase = .notes k) : (u.noting layer k).Sound layer where
  noted := by
    simp only [LockUser.noting, HeldLayers.acquire, List.map_append, List.map_cons, List.map_nil]
    exact h.noted.append_right _
  distinct := List.nodup_append.2 ⟨h.distinct, List.nodup_singleton k, fun a ha b hb hab => by
    rw [List.mem_singleton.1 hb] at hab
    exact h.apart k (.inl hp) (hab ▸ ha)⟩
  apart := by simp [LockUser.noting]

/-- Striking a layer off takes one entry of it, so the layers of the other guards stay noted. -/
theorem Sound.striking [DecidableEq κ] (h : u.Sound layer) (hk : k ∈ u.guards) : (u.striking layer k).Sound layer where
  noted := HeldLayers.letGo_perm (h.noted.trans ((List.perm_cons_erase hk).map layer))
  distinct := h.distinct.erase k
  apart := by
    intro m hm
    simp only [LockUser.striking, reduceCtorEq, LockPhase.returns.injEq, false_or] at hm ⊢
    subst hm
    exact h.distinct.not_mem_erase

end LockUser

/-! ## All threads -/

namespace LockYard

variable {y : LockYard ι κ} {i j : ι} {o : Option ι} {p : LockPhase κ}

/-- Every thread is sound, and a lock belongs to the thread in whose hands it is. -/
structure Sound (y : LockYard ι κ) : Prop where
  users : ∀ i, (y.user i).Sound y.layer
  owned : ∀ i k, y.owner k = some i ↔ (y.user i).Holds k

theorem Sound.idle (layer : κ → Layer) (monitor : Monitor) : Sound { layer, monitor : LockYard ι κ } where
  users _ := ⟨.refl _, .nil, by simp⟩
  owned _ _ := by simp [LockUser.Holds]

section

variable [DecidableEq ι]

@[simp] theorem user_setUser_self : (y.setUser i u).user i = u := Function.update_self ..

theorem user_setUser_of_ne (h : j ≠ i) : (y.setUser i u).user j = y.user j := Function.update_of_ne h ..

@[simp] theorem owner_setUser : (y.setUser i u).owner = y.owner := rfl

@[simp] theorem layer_setUser : (y.setUser i u).layer = y.layer := rfl

end

section

variable [DecidableEq κ]

@[simp] theorem user_setOwner : (y.setOwner k o).user = y.user := rfl

@[simp] theorem layer_setOwner : (y.setOwner k o).layer = y.layer := rfl

@[simp] theorem owner_setOwner_self : (y.setOwner k o).owner k = o := Function.update_self ..

theorem owner_setOwner_of_ne (h : m ≠ k) : (y.setOwner k o).owner m = y.owner m := Function.update_of_ne h ..

end

variable [DecidableEq ι] [DecidableEq κ]

omit [DecidableEq κ] in
theorem Sound.setUser (h : y.Sound) (hu : u.Sound y.layer) (hk : ∀ k, u.Holds k ↔ (y.user i).Holds k) :
    (y.setUser i u).Sound where
  users j := by
    by_cases hj : j = i
    · subst hj
      simpa using hu
    · rw [user_setUser_of_ne hj]
      exact h.users j
  owned j k := by
    by_cases hj : j = i
    · subst hj
      rw [owner_setUser, user_setUser_self, hk]
      exact h.owned j k
    · rw [owner_setUser, user_setUser_of_ne hj]
      exact h.owned j k

/-- A lock changes hands, and nobody but the thread that changes has to do with it. -/
theorem Sound.change (h : y.Sound) (hu : u.Sound y.layer) (hk : u.Holds k ↔ o = some i)
    (hrest : ∀ m, m ≠ k → (u.Holds m ↔ (y.user i).Holds m))
    (hothers : ∀ j, j ≠ i → o ≠ some j ∧ y.owner k ≠ some j) :
    ((y.setOwner k o).setUser i u).Sound where
  users j := by
    by_cases hj : j = i
    · subst hj
      simpa using hu
    · rw [user_setUser_of_ne hj]
      exact h.users j
  owned j m := by
    rw [owner_setUser]
    by_cases hm : m = k
    · subst hm
      rw [owner_setOwner_self]
      by_cases hj : j = i
      · subst hj
        rw [user_setUser_self]
        exact hk.symm
      · obtain ⟨hnext, howner⟩ := hothers j hj
        rw [user_setUser_of_ne hj, user_setOwner]
        exact iff_of_false hnext fun hold => howner ((h.owned j m).2 hold)
    · rw [owner_setOwner_of_ne hm]
      by_cases hj : j = i
      · subst hj
        rw [user_setUser_self, hrest m hm]
        exact h.owned j m
      · rw [user_setUser_of_ne hj]
        exact h.owned j m

theorem Sound.take (h : y.Sound) (hfree : y.owner k = none) (hp : ∀ m, (y.user i).Holds m ↔ m ∈ (y.user i).guards) :
    ((y.setOwner k (some i)).setPhase i (.notes k)).Sound := by
  have hk : k ∉ (y.user i).guards := fun hk => by
    have howner := (h.owned i k).2 ((hp k).2 hk)
    rw [hfree] at howner
    cases howner
  refine h.change ((h.users i).phase (by simpa using hk)) ?_ (fun m hm => ?_) fun j hj => ?_
  · simp [LockUser.Holds]
  · rw [LockUser.holds_iff_of_notes rfl, hp, or_iff_right hm]
    rfl
  · simp [hfree, Ne.symm hj]

theorem Sound.giveBack (h : y.Sound) (hp : (y.user i).phase = .returns k) :
    ((y.setOwner k none).setPhase i .free).Sound := by
  have howner : y.owner k = some i := (h.owned i k).2 (.inr (.inr hp))
  have hk : k ∉ (y.user i).guards := (h.users i).apart k (.inr hp)
  refine h.change ((h.users i).phase (by simp)) ?_ (fun m hm => ?_) fun j hj => ?_
  · rw [LockUser.holds_iff_of_free rfl]
    exact iff_of_false hk (by simp)
  · rw [LockUser.holds_iff_of_free rfl, LockUser.holds_iff_of_returns hp, or_iff_right hm]
    rfl
  · simp [howner, Ne.symm hj]

inductive Comes (y : LockYard ι κ) (mv : LockMove ι κ) : LockYard ι κ → Prop where
  | still : Comes y mv y
  | waits {i : ι} {k : κ} : (y.user i).phase = .free →
      y.reports mv = ((y.user i).held.obstacle (y.layer k)).map (y.layer k).breach →
      Comes y mv (y.setPhase i (.waits k))
  | takes {i : ι} {k : κ} : y.owner k = none → (∀ m, (y.user i).Holds m ↔ m ∈ (y.user i).guards) →
      Comes y mv ((y.setOwner k (some i)).setPhase i (.notes k))
  | notes {i : ι} {k : κ} : (y.user i).phase = .notes k → Comes y mv (y.setUser i ((y.user i).noting y.layer k))
  | strikes {i : ι} {k : κ} : (y.user i).phase = .free → k ∈ (y.user i).guards →
      Comes y mv (y.setUser i ((y.user i).striking y.layer k))
  | givesBack {i : ι} {k : κ} : (y.user i).phase = .returns k → Comes y mv ((y.setOwner k none).setPhase i .free)

theorem comes_move (y : LockYard ι κ) (mv : LockMove ι κ) : y.Comes mv (y.move mv) := by
  cases mv with
  | ask i k =>
    simp only [move]
    split
    · rename_i hp
      split
      · exact .still
      · exact .waits hp (by simp [reports, hp])
    · exact .still
  | take i =>
    simp only [move]
    split
    · rename_i k hp
      split
      · rename_i hfree
        exact .takes hfree fun m => LockUser.holds_iff_of_waits hp
      · exact .still
    · exact .still
  | tryTake i k =>
    simp only [move]
    split
    · rename_i hp
      split
      · rename_i hfree
        exact .takes hfree fun m => LockUser.holds_iff_of_free hp
      · exact .still
    · exact .still
  | note i =>
    simp only [move]
    split
    · rename_i k hp
      exact .notes hp
    · exact .still
  | strike i k =>
    simp only [move]
    split
    · rename_i hp
      split
      · rename_i hk
        exact .strikes hp hk
      · exact .still
    · exact .still
  | giveBack i =>
    simp only [move]
    split
    · rename_i k hp
      exact .givesBack hp
    · exact .still
  | report v => exact .still

/-- **Every move leaves a yard sound.** -/
theorem Sound.comes {y' : LockYard ι κ} {mv : LockMove ι κ} (h : y.Sound) (hc : y.Comes mv y') : y'.Sound := by
  cases hc with
  | still => exact h
  | @waits i k hp =>
    refine h.setUser ((h.users i).phase (by simp)) fun m => ?_
    rw [LockUser.holds_iff_of_waits rfl, LockUser.holds_iff_of_free hp]
  | takes hfree hp => exact h.take hfree hp
  | @notes i k hp =>
    refine h.setUser ((h.users i).noting hp) fun m => ?_
    rw [LockUser.holds_iff_of_free rfl, LockUser.holds_iff_of_notes hp, LockUser.noting, List.mem_append,
      List.mem_singleton, or_comm]
  | @strikes i k hp hk =>
    refine h.setUser ((h.users i).striking hk) fun m => ?_
    rw [LockUser.holds_iff_of_returns rfl, LockUser.holds_iff_of_free hp, LockUser.striking,
      (h.users i).distinct.mem_erase_iff]
    by_cases hm : m = k
    · simp [hm, hk]
    · simp [hm]
  | givesBack hp => exact h.giveBack hp

theorem Sound.perform (h : y.Sound) (mv : LockMove ι κ) : (y.perform mv).Sound := by
  obtain ⟨husers, howned⟩ := h.comes (y.comes_move mv)
  exact ⟨husers, howned⟩

theorem Sound.after : ∀ (ms : List (LockMove ι κ)) {y : LockYard ι κ}, y.Sound → (y.after ms).Sound
  | [], _, h => h
  | mv :: ms, _, h => Sound.after ms (h.perform mv)

/-! ## A thread that is alone -/

/-- The yard of one thread looks like a row of locks between two calls. -/
structure Shows (y : LockYard Unit Nat) (r : LockRow) : Prop where
  sound : y.Sound
  phase : (y.user ()).phase = .free
  held : (y.user ()).held = r.held
  monitor : y.monitor = r.monitor
  layers : ∀ i k, r.locks[i]? = some k → y.layer i = k.layer
  busy : ∀ i k, r.locks[i]? = some k → (k.busy = true ↔ y.owner i = some ())

variable {y : LockYard Unit Nat} {r : LockRow} {i : Nat} {k : CountingLock}

theorem Shows.idle {layer : Nat → Layer} {locks : List CountingLock} (monitor : Monitor)
    (h : ∀ i k, locks[i]? = some k → layer i = k.layer ∧ k.busy = false) :
    Shows { layer, monitor } { locks, monitor } where
  sound := .idle layer monitor
  phase := rfl
  held := rfl
  monitor := rfl
  layers i k hk := (h i k hk).1
  busy i k hk := by simp [(h i k hk).2]

/-- A lock of the row changes hands in the yard. -/
theorem Shows.changed {y' : LockYard Unit Nat} {r' : LockRow} {f : CountingLock → CountingLock} {b : Bool}
    (h : y.Shows r) (hs : y'.Sound) (hp : (y'.user ()).phase = .free) (hh : (y'.user ()).held = r'.held)
    (hm : y'.monitor = r'.monitor) (hl : y'.layer = y.layer) (hr : r'.locks = r.locks.modify i f)
    (ho : y'.owner = Function.update y.owner i (if b then some () else none))
    (hf : ∀ k, (f k).layer = k.layer ∧ (f k).busy = b) : y'.Shows r' := by
  refine ⟨hs, hp, hh, hm, fun j k hk => ?_, fun j k hk => ?_⟩
  all_goals
    rw [hr, List.getElem?_modify] at hk
    obtain ⟨k₀, hk₀, rfl⟩ := Option.map_eq_some_iff.1 hk
  · rw [hl, h.layers j k₀ hk₀]
    split
    · exact (hf k₀).1.symm
    · rfl
  · rw [ho]
    by_cases hj : j = i
    · subst hj
      rw [if_pos rfl, (hf k₀).2, Function.update_self]
      cases b <;> simp
    · rw [if_neg (Ne.symm hj), Function.update_of_ne hj]
      exact h.busy j k₀ hk₀

theorem Shows.owner_eq_none (h : y.Shows r) (hi : r.locks[i]? = some k) (hk : k.busy = false) : y.owner i = none := by
  have hbusy := h.busy i k hi
  cases ho : y.owner i with
  | none => rfl
  | some _ => simp [ho, hk] at hbusy

/-- A thread that is alone and halted by its monitor changes nothing else. -/
theorem after_lock_of_halted (hp : (y.user ()).phase = .free) (hs : y.monitor.strict = true) {b : Layer}
    (hb : (y.user ()).held.obstacle (y.layer i) = some b) : y.after [.ask () i, .take (), .note ()] =
      { y with monitor := y.monitor.record ((y.layer i).breach b) } := by
  simp [after, perform, move, reports, hp, hs, hb]

theorem after_lock_of_free (hp : (y.user ()).phase = .free) (hfree : y.owner i = none)
    (hgo : ¬ (y.monitor.strict = true ∧ (y.user ()).held.obstacle (y.layer i) ≠ none)) :
    y.after [.ask () i, .take (), .note ()] =
      { (y.setOwner i (some ())).setUser () ((y.user ()).noting y.layer i) with
        monitor := (y.reports (.ask () i)).elim y.monitor y.monitor.record } := by
  simp [after, perform, move, reports, setPhase, setUser, setOwner, LockUser.noting, hp, hfree, hgo]

/-- **Locking alone.** -/
theorem Shows.lock (h : y.Shows r) (hi : r.locks[i]? = some k) (hk : k.busy = false) :
    (y.after [.ask () i, .take (), .note ()]).Shows (r.lock i).2 := by
  have hfree := h.owner_eq_none hi hk
  have hlayer := h.layers i k hi
  have hsound := h.sound.after [.ask () i, .take (), .note ()]
  by_cases hhalt : y.monitor.strict = true ∧ (y.user ()).held.obstacle (y.layer i) ≠ none
  · obtain ⟨hs, ho⟩ := hhalt
    obtain ⟨b, hb⟩ := Option.ne_none_iff_exists'.1 ho
    rw [after_lock_of_halted h.phase hs hb] at hsound ⊢
    rw [hlayer, h.held] at hb
    rw [h.monitor] at hs
    have hv : r.checkOrder k.layer = some (k.layer.breach b) := by rw [LockRow.checkOrder, hb, Option.map_some]
    rw [LockRow.lock_of_halted hi hv hs, hlayer, h.monitor]
    exact ⟨⟨h.sound.users, h.sound.owned⟩, h.phase, h.held, rfl, h.layers, h.busy⟩
  · rw [after_lock_of_free h.phase hfree hhalt] at hsound ⊢
    rw [h.monitor, h.held, hlayer] at hhalt
    have hgo : ¬ (r.monitor.strict = true ∧ r.checkOrder k.layer ≠ none) := by simpa [LockRow.checkOrder] using hhalt
    rw [LockRow.lock_of_not_halted hi hgo]
    refine h.changed (b := true) hsound ?_ ?_ ?_ rfl rfl rfl fun k => ⟨rfl, rfl⟩
    · simp [LockUser.noting]
    · simp [LockUser.noting, h.held, hlayer]
    · simp [reports, h.phase, h.held, h.monitor, hlayer, LockRow.checkOrder]

/-- **Trying a lock alone.** -/
theorem Shows.tryLock (h : y.Shows r) (hi : r.locks[i]? = some k) :
    (y.after [.tryTake () i, .note ()]).Shows (r.tryLock i).2 := by
  have hsound := h.sound.after [.tryTake () i, .note ()]
  cases hk : k.busy with
  | true =>
    have howner := (h.busy i k hi).1 hk
    have hafter : y.after [.tryTake () i, .note ()] = y := by
      simp [after, perform, move, reports, h.phase, howner]
    rw [hafter, LockRow.tryLock_of_busy hi hk]
    exact h
  | false =>
    have hfree := h.owner_eq_none hi hk
    have hafter : y.after [.tryTake () i, .note ()] =
        (y.setOwner i (some ())).setUser () ((y.user ()).noting y.layer i) := by
      simp [after, perform, move, reports, setPhase, setUser, setOwner, LockUser.noting, h.phase, hfree]
    rw [hafter] at hsound ⊢
    rw [LockRow.tryLock_of_free hi hk]
    refine h.changed (b := true) hsound ?_ ?_ h.monitor rfl rfl rfl fun k => ⟨rfl, rfl⟩
    · simp [LockUser.noting]
    · simp [LockUser.noting, h.held, h.layers i k hi]

/-- **Letting a lock go alone.** -/
theorem Shows.unlock (h : y.Shows r) (hi : r.locks[i]? = some k) :
    (y.after [.strike () i, .giveBack ()]).Shows (r.unlock i) := by
  have hsound := h.sound.after [.strike () i, .giveBack ()]
  have hguard : i ∈ (y.user ()).guards ↔ k.busy = true := by
    rw [h.busy i k hi, h.sound.owned, LockUser.holds_iff_of_free h.phase]
  cases hk : k.busy with
  | false =>
    have hafter : y.after [.strike () i, .giveBack ()] = y := by
      simp [after, perform, move, reports, h.phase, hguard, hk]
    rw [hafter, LockRow.unlock_of_free hi hk]
    exact h
  | true =>
    have hafter : y.after [.strike () i, .giveBack ()] =
        (y.setOwner i none).setUser () { (y.user ()).striking y.layer i with phase := .free } := by
      simp [after, perform, move, reports, setPhase, setUser, setOwner, LockUser.striking, h.phase, hguard, hk]
    rw [hafter] at hsound ⊢
    rw [LockRow.unlock_of_busy hi hk]
    refine h.changed (b := false) hsound ?_ ?_ h.monitor rfl rfl rfl fun k => ⟨rfl, rfl⟩
    · simp
    · simp [LockUser.striking, h.held, h.layers i k hi]

end LockYard
end Crossroads
