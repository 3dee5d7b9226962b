import Crossroads.Least
import Crossroads.LockOrder
/-!
# Held layers

Which held layer stands in the way of a lock, and what is left when one is let go.
-/
namespace Crossroads
namespace HeldLayers

variable {held rest newer : HeldLayers} {h l w x : Layer}

/-! ## The highest layer -/

theorem highest_eq_firstLeast? (held : HeldLayers) :
    held.highest = firstLeast? (fun a b => compare b.rank a.rank) held := by
  cases held <;> simp [highest, firstLeast?, Nat.compare_eq_lt]

theorem highest_eq_none_iff : held.highest = none ↔ held = [] := by
  rw [highest_eq_firstLeast?, firstLeast?_eq_none_iff]

theorem rank_le_of_highest (hh : held.highest = some h) (hx : x ∈ held) : x.rank ≤ h.rank := by
  have : Std.TransCmp (fun a b : Layer => compare b.rank a.rank) :=
    inferInstanceAs (Std.TransCmp fun a b => compareOn Layer.rank b a)
  rw [highest_eq_firstLeast?] at hh
  simpa [Nat.isLE_compare] using isLE_of_firstLeast? hh hx

theorem highest_eq_some_iff : held.highest = some h ↔ h ∈ held ∧ ∀ x ∈ held, x.rank ≤ h.rank := by
  constructor
  · intro hh
    exact ⟨mem_of_firstLeast? ((highest_eq_firstLeast? held).symm.trans hh), fun x hx => rank_le_of_highest hh hx⟩
  · rintro ⟨hmem, hle⟩
    cases hh : held.highest with
    | none =>
      rw [highest_eq_none_iff.1 hh] at hmem
      cases hmem
    | some m =>
      have hm : m ∈ held := mem_of_firstLeast? ((highest_eq_firstLeast? held).symm.trans hh)
      rw [Layer.rank_inj (Nat.le_antisymm (hle m hm) (rank_le_of_highest hh hmem))]

/-- **The highest held layer stands in the way of a layer**, unless it is lower. -/
theorem obstacle_eq_some_iff :
    held.obstacle w = some h ↔ h ∈ held ∧ (∀ x ∈ held, x.rank ≤ h.rank) ∧ w.rank ≤ h.rank := by
  rw [obstacle, Option.filter_eq_some_iff, highest_eq_some_iff, decide_eq_true_eq, and_assoc]

/-- **Nothing stands in the way of a layer exactly if all held ones are lower.** -/
theorem obstacle_eq_none_iff : held.obstacle w = none ↔ ∀ x ∈ held, x.rank < w.rank := by
  constructor
  · intro hn x hx
    cases hh : held.highest with
    | none =>
      rw [highest_eq_none_iff.1 hh] at hx
      cases hx
    | some h =>
      have hlt : h.rank < w.rank := by simpa [obstacle, hh, Option.filter_eq_none_iff] using hn
      exact Nat.lt_of_le_of_lt (rank_le_of_highest hh hx) hlt
  · intro hall
    rw [Option.eq_none_iff_forall_ne_some]
    intro h hs
    obtain ⟨hmem, -, hle⟩ := obstacle_eq_some_iff.1 hs
    exact Nat.not_le_of_lt (hall h hmem) hle

/-! ## Letting go -/

theorem letGo_perm (hp : held.Perm (l :: rest)) : (held.letGo l).Perm rest := by
  have hall : held.reverse.Perm (l :: rest) := (List.reverse_perm held).trans hp
  have hrest : (held.reverse.erase l).Perm rest := by simpa using hall.erase l
  exact (List.reverse_perm _).trans hrest

/-- The entry that goes is the newest one. -/
theorem letGo_append_of_mem (older : HeldLayers) (hl : l ∈ newer) :
    letGo (older ++ newer) l = older ++ letGo newer l := by
  rw [letGo, List.reverse_append, List.erase_append_left _ (List.mem_reverse.2 hl), List.reverse_append,
    List.reverse_reverse, letGo]

theorem letGo_append_of_not_mem (older : HeldLayers) (hl : l ∉ newer) :
    letGo (older ++ l :: newer) l = older ++ newer := by
  have hsplit : older ++ l :: newer = older ++ [l] ++ newer := by simp
  rw [letGo, hsplit, List.reverse_append, List.erase_append_right _ (mt List.mem_reverse.1 hl), List.reverse_append,
    List.reverse_concat, List.erase_cons_head, List.reverse_reverse, List.reverse_reverse]

/-- Letting go is taking the oldest entry away, or one that cannot be told from it, exactly if no other layer stands
between that entry and the newest one of the layer. -/
theorem eq_cons_letGo_iff (hl : l ∈ held) : held = l :: letGo held l ↔ ∀ x, [x, l].Sublist held → x = l := by
  induction held with
  | nil => cases hl
  | cons a held ih =>
    by_cases hmem : l ∈ held
    · have hgo : letGo (a :: held) l = a :: letGo held l := letGo_append_of_mem [a] hmem
      have hpairs : (∀ x, [x, l].Sublist (a :: held) → x = l) ↔ (∀ x, [x, l].Sublist held → x = l) ∧ a = l := by
        constructor
        · intro hall
          exact ⟨fun x hx => hall x (hx.cons a), hall a ((List.singleton_sublist.2 hmem).cons_cons a)⟩
        · rintro ⟨hall, rfl⟩ x hx
          rcases List.sublist_cons_iff.1 hx with hx | ⟨_, heq, -⟩
          · exact hall x hx
          · exact (List.cons.inj heq).1
      rw [hgo, List.cons.injEq, hpairs, and_comm]
      refine and_congr_left fun hal => ?_
      rw [hal]
      exact ih hmem
    · obtain rfl : l = a := (List.mem_cons.1 hl).resolve_right hmem
      have hgo : letGo (l :: held) l = held := letGo_append_of_not_mem [] hmem
      refine iff_of_true (by rw [hgo]) fun x hx => ?_
      rcases List.sublist_cons_iff.1 hx with hx | ⟨_, heq, -⟩
      · exact absurd (hx.subset (by simp)) hmem
      · exact (List.cons.inj heq).1

end HeldLayers
end Crossroads
