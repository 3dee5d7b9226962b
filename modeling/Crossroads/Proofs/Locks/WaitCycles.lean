import Crossroads.Proofs.Locks.Yard
import Mathlib.Logic.Relation
/-!
# No cycle of waiting threads

As long as no breach of the order was recorded, a thread that waits for a lock has guards of lower layers only: what it
tried to lock below them it has, and did not wait for.  So whoever it waits for waits, if at all, for a lock of a higher
layer, and no chain of waiting threads comes back to where it began (`LockYard.no_wait_cycle`).
-/
namespace Crossroads

namespace LockYard

variable {ι κ : Type} {y : LockYard ι κ} {a b i : ι} {k m : κ} {u : LockUser κ}

/-- Whoever waits for a lock has guards of lower layers only. -/
def Layered (y : LockYard ι κ) : Prop :=
  ∀ i k, (y.user i).phase = .waits k → ∀ g ∈ (y.user i).guards, (y.layer g).rank < (y.layer k).rank

/-! ## Chains of waiting threads -/

/-- A thread that somebody waits for waits itself, if at all, for a lock of a higher layer. -/
theorem WaitsFor.rank_lt (h : y.WaitsFor a b) (hs : y.Sound) (hl : y.Layered) (ha : (y.user a).phase = .waits k)
    (hb : (y.user b).phase = .waits m) : (y.layer k).rank < (y.layer m).rank := by
  obtain ⟨k', hk', hown⟩ := h
  rw [ha] at hk'
  cases hk'
  exact hl b m hb k ((LockUser.holds_iff_of_waits hb).1 ((hs.owned b k).1 hown))

theorem rank_lt_of_transGen (hs : y.Sound) (hl : y.Layered) (h : Relation.TransGen y.WaitsFor a b)
    (ha : (y.user a).phase = .waits k) (hb : (y.user b).phase = .waits m) :
    (y.layer k).rank < (y.layer m).rank := by
  induction h generalizing m with
  | single hab => exact hab.rank_lt hs hl ha hb
  | tail _ hcb ih =>
    obtain ⟨n, hc, hown⟩ := hcb
    exact Nat.lt_trans (ih hc) (WaitsFor.rank_lt ⟨n, hc, hown⟩ hs hl hc hb)

theorem Layered.acyclic (hl : y.Layered) (hs : y.Sound) (a : ι) : ¬ Relation.TransGen y.WaitsFor a a := by
  intro h
  obtain ⟨_, ⟨k, hk, -⟩, -⟩ := Relation.TransGen.head'_iff.1 h
  exact Nat.lt_irrefl _ (rank_lt_of_transGen hs hl h hk hk)

/-! ## Moves without a breach -/

variable [DecidableEq ι] [DecidableEq κ]

omit [DecidableEq κ] in
theorem Layered.setUser (h : y.Layered)
    (hu : ∀ k, u.phase = .waits k → ∀ g ∈ u.guards, (y.layer g).rank < (y.layer k).rank) : (y.setUser i u).Layered := by
  intro j k hj
  by_cases hji : j = i
  · subst hji
    rw [user_setUser_self] at hj ⊢
    exact hu k hj
  · rw [user_setUser_of_ne hji] at hj ⊢
    exact h j k hj

omit [DecidableEq κ] in
/-- A thread that begins to wait without a breach has guards of lower layers only. -/
theorem Layered.ask (h : y.Layered) (hs : y.Sound) (hgo : (y.user i).held.obstacle (y.layer k) = none) :
    (y.setPhase i (.waits k)).Layered := by
  refine h.setUser fun m hm g hg => ?_
  cases hm
  exact HeldLayers.obstacle_eq_none_iff.1 hgo _ ((hs.users i).noted.mem_iff.2 (List.mem_map_of_mem hg))

omit [DecidableEq κ] in
theorem Layered.setUser_of_busy (h : y.Layered) (hu : ∀ k, u.phase ≠ .waits k) : (y.setUser i u).Layered :=
  h.setUser fun k hk => absurd hk (hu k)

theorem Layered.take {o : Option ι} {p : LockPhase κ} (h : y.Layered) (hp : ∀ m, p ≠ .waits m) :
    ((y.setOwner k o).setPhase i p).Layered := by
  have hown : (y.setOwner k o).Layered := h
  exact hown.setUser_of_busy hp

/-- **A move that reports no breach leaves a yard layered.**  Only `ask` makes a thread wait; a lock that is tried is
taken by a thread that does not wait. -/
theorem Layered.comes {y' : LockYard ι κ} {mv : LockMove ι κ} (h : y.Layered) (hs : y.Sound) (hc : y.Comes mv y')
    (hv : ∀ v, y.reports mv = some v → v.kind ≠ .lockOrder) : y'.Layered := by
  cases hc with
  | still => exact h
  | @waits i k hp hreports =>
    -- A monitor that is not strict lets a thread wait in spite of a breach, but then the breach is reported.
    refine h.ask hs ?_
    cases ho : (y.user i).held.obstacle (y.layer k) with
    | none => rfl
    | some b =>
      rw [ho] at hreports
      exact absurd rfl (hv _ hreports)
  | takes => exact h.take (by simp)
  | notes => exact h.setUser_of_busy (by simp [LockUser.noting])
  | strikes => exact h.setUser_of_busy (by simp [LockUser.striking])
  | givesBack => exact h.take (by simp)

theorem Layered.perform (h : y.Layered) (hs : y.Sound) (mv : LockMove ι κ)
    (hv : ∀ v, y.reports mv = some v → v.kind ≠ .lockOrder) : (y.perform mv).Layered := by
  have hmove : (y.move mv).Layered := h.comes hs (y.comes_move mv) hv
  exact hmove

/-! ## Runs without a breach -/

theorem monitor_after : ∀ (ms : List (LockMove ι κ)) (y : LockYard ι κ),
    (y.after ms).monitor = (y.recorded ms).foldl Monitor.record y.monitor
  | [], _ => rfl
  | mv :: ms, y => by
    rw [after, List.foldl_cons, ← after, monitor_after ms, recorded, List.foldl_append]
    cases hr : y.reports mv <;> simp [perform, hr]

theorem Layered.after : ∀ (ms : List (LockMove ι κ)) {y : LockYard ι κ}, y.Layered → y.Sound →
    (∀ v ∈ y.recorded ms, v.kind ≠ .lockOrder) → (y.after ms).Layered
  | [], _, h, _, _ => h
  | mv :: ms, y, h, hs, hv => by
    have hnow : ∀ v, y.reports mv = some v → v.kind ≠ .lockOrder := fun v hr => hv v (by simp [recorded, hr])
    have hrest : ∀ v ∈ (y.perform mv).recorded ms, v.kind ≠ .lockOrder := fun v hm => hv v (by simp [recorded, hm])
    exact Layered.after ms (h.perform hs mv hnow) (hs.perform mv) hrest

omit [DecidableEq ι] [DecidableEq κ] in
theorem Layered.idle (layer : κ → Layer) (monitor : Monitor) : Layered { layer, monitor : LockYard ι κ } := by
  intro i k hk
  cases hk

/-- **As long as no breach is recorded, no chain of waiting threads comes back to where it began**, and no thread waits
for itself: for any threads and locks, whatever is tried out of order and in whatever order guards are dropped. -/
theorem no_wait_cycle (layer : κ → Layer) (monitor : Monitor) (ms : List (LockMove ι κ))
    (h : ∀ v ∈ ({ layer, monitor } : LockYard ι κ).recorded ms, v.kind ≠ .lockOrder) (a : ι) :
    ¬ Relation.TransGen (({ layer, monitor } : LockYard ι κ).after ms).WaitsFor a a := by
  have hsound : ({ layer, monitor } : LockYard ι κ).Sound := .idle layer monitor
  have hlayered : ({ layer, monitor } : LockYard ι κ).Layered := .idle layer monitor
  exact (hlayered.after ms hsound h).acyclic (hsound.after ms) a

/-- One thread has a lock of the lanes and tries one of the metrics, below it; the other waits for that. -/
def triedBelow : List (LockMove Bool Bool) :=
  [.ask true true, .take true, .note true, .tryTake true false, .note true, .strike true true, .giveBack true,
    .ask false false]

theorem no_wait_cycle_triedBelow :
    let y : LockYard Bool Bool := { layer := fun k => if k then .lane else .metrics }
    (y.after triedBelow).WaitsFor false true ∧ (∀ v ∈ y.recorded triedBelow, v.kind ≠ .lockOrder) ∧
      ¬ Relation.TransGen (y.after triedBelow).WaitsFor false false := by
  have hclear : ∀ v ∈ ({ layer := fun k => if k then .lane else .metrics } : LockYard Bool Bool).recorded triedBelow,
      v.kind ≠ .lockOrder := by
    have hnone : ({ layer := fun k => if k then .lane else .metrics } : LockYard Bool Bool).recorded triedBelow =
        [] := by decide
    simp [hnone]
  exact ⟨⟨false, rfl, rfl⟩, hclear, no_wait_cycle _ _ _ hclear false⟩

end LockYard
end Crossroads
