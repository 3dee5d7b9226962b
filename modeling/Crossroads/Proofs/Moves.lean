import Crossroads.Junction.Admission
import Mathlib.Order.Defs.Unbundled
/-!
# What holds of actions by their parts

A property of actions composes (`Act.Composes`) if a sequence of actions has it as soon as each of them does: then it is
enough to look at the parts of an action.  The properties here say how an action may leave a junction (`Act.Moves`).
Where a junction may go in two moves it may go in one, if the relation between the two is reflexive and transitive.
-/
namespace Crossroads
namespace Act

variable {α β : Type}

theorem discard_eq (a : Act α) : discard a = a >>= fun _ => Pure.pure () := map_eq_pure_bind (Function.const α ()) a

/-- A property that an action has if its parts have it. -/
structure Composes (P : ∀ {α : Type}, Act α → Prop) : Prop where
  pure : ∀ {α : Type} (x : α), P (Pure.pure x : Act α)
  get : P (MonadState.get : Act Junction)
  bind : ∀ {α β : Type} {a : Act α} {k : α → Act β}, P a → (∀ x, P (k x)) → P (a >>= k)

namespace Composes

variable {P : ∀ {α : Type}, Act α → Prop}

theorem ite (_ : Composes P) {p : Prop} [Decidable p] {a b : Act α} (ha : P a) (hb : P b) : P (if p then a else b) := by
  split
  · exact ha
  · exact hb

theorem discard (h : Composes P) {a : Act α} (ha : P a) : P (discard a) := by
  rw [discard_eq]
  exact h.bind ha fun _ => h.pure ()

theorem forM (h : Composes P) {f : Lane → Act Unit} (hf : ∀ l, P (f l)) : ∀ ls : List Lane, P (ls.forM f)
  | [] => h.pure ()
  | l :: ls => h.bind (hf l) fun _ => h.forM hf ls

theorem collectLanes (h : Composes P) {f : Lane → Act Bool} (hf : ∀ l, P (f l)) : ∀ ls, P (collectLanes f ls)
  | [] => h.pure []
  | l :: ls => h.bind (hf l) fun _ => h.bind (h.collectLanes hf ls) fun _ => h.pure _

end Composes

/-! ## Moves -/

variable {R S : Junction → Junction → Prop}

/-- However the action ends, the junction that it leaves is related to the one before. -/
def Moves (R : Junction → Junction → Prop) (a : Act α) : Prop := ∀ j, R j (a.runOn j).2

namespace Moves

theorem mono {a : Act α} (h : a.Moves R) (hRS : ∀ j i, R j i → S j i) : a.Moves S := fun j => hRS j _ (h j)

theorem of_runOn {a : Act α} (h : a.Moves R) {j i : Junction} {r : Except Fault α} (hrun : a.runOn j = (r, i)) :
    R j i := by
  have hj := h j
  rwa [hrun] at hj

variable [IsPreorder Junction R]

theorem pure (x : α) : (pure x : Act α).Moves R := refl_of R

theorem get : (get : Act Junction).Moves R := refl_of R

theorem refuse (e : TrafficError) : (refuse e : Act α).Moves R := refl_of R

theorem ofExcept (r : Except TrafficError α) : (ofExcept r).Moves R := by
  cases r <;> exact refl_of R

theorem bind {a : Act α} {k : α → Act β} (h : a.Moves R) (hk : ∀ x, (k x).Moves R) : (a >>= k).Moves R := by
  intro j
  have ha := h j
  rw [runOn_bind]
  rcases hrun : a.runOn j with ⟨r, i⟩
  rw [hrun] at ha
  cases r with
  | ok x => exact trans_of R ha (hk x i)
  | error f => exact ha

theorem composes : Composes (Moves R) := ⟨.pure, .get, .bind⟩

theorem of_lane {l : Lane} {f : Approach → Except TrafficError Approach}
    (h : ∀ (j : Junction) b, f (j.lanes.get l) = .ok b → R j { j with lanes := j.lanes.set l b }) :
    (tryOnLane l f).Moves R := by
  intro j
  rw [runOn_tryOnLane]
  cases hf : f (j.lanes.get l) with
  | error e => exact refl_of R j
  | ok b => exact h j b hf

end Moves
end Act
end Crossroads
