/-!
# The first least element

Choosing from a list by a comparison: the first element that no other precedes.
-/
namespace Crossroads

/-- The first least element of a list under a comparison; of two that compare equal the earlier one is kept. -/
def firstLeast? {α : Type} (cmp : α → α → Ordering) : List α → Option α
  | []      => none
  | a :: as => some (as.foldl (fun best x => if cmp x best = .lt then x else best) a)

theorem firstLeast?_eq_none_iff {α : Type} {cmp : α → α → Ordering} {l : List α} :
    firstLeast? cmp l = none ↔ l = [] := by
  cases l <;> simp [firstLeast?]

theorem foldl_least_mem {α : Type} (cmp : α → α → Ordering) : ∀ (l : List α) (a : α),
    l.foldl (fun best x => if cmp x best = .lt then x else best) a ∈ a :: l
  | [], a => by simp
  | x :: l, a => by
    rw [List.foldl_cons]
    by_cases h : cmp x a = .lt
    · rw [if_pos h]
      exact List.mem_cons_of_mem _ (foldl_least_mem cmp l x)
    · rw [if_neg h]
      rcases List.mem_cons.1 (foldl_least_mem cmp l a) with h1 | h1
      · rw [h1]; exact List.mem_cons_self
      · exact List.mem_cons_of_mem _ (List.mem_cons_of_mem _ h1)

theorem mem_of_firstLeast? {α : Type} {cmp : α → α → Ordering} {l : List α} {a : α}
    (h : firstLeast? cmp l = some a) : a ∈ l := by
  cases l with
  | nil => cases h
  | cons b l =>
    simp only [firstLeast?, Option.some.injEq] at h
    exact h ▸ foldl_least_mem cmp l b

/-- What the choice keeps precedes everything it has seen. -/
theorem foldl_least_isLE {α : Type} {cmp : α → α → Ordering} [Std.TransCmp cmp] : ∀ (l : List α) (a : α) {b : α},
    b ∈ a :: l → (cmp (l.foldl (fun best x => if cmp x best = .lt then x else best) a) b).isLE = true
  | [], a, b, hb => by
    rw [List.mem_singleton.1 hb]
    exact Std.ReflCmp.isLE_rfl
  | x :: l, a, b, hb => by
    rw [List.foldl_cons]
    have hle : ∀ c, c = a ∨ c = x → (cmp (if cmp x a = .lt then x else a) c).isLE = true := by
      by_cases h : cmp x a = .lt
      · rw [if_pos h]
        rintro c (rfl | rfl)
        · rw [h]; rfl
        · exact Std.ReflCmp.isLE_rfl
      · rw [if_neg h]
        rintro c (rfl | rfl)
        · exact Std.ReflCmp.isLE_rfl
        · have hswap : cmp a c = (cmp c a).swap := Std.OrientedCmp.eq_swap
          rw [hswap, Ordering.isLE_swap]
          cases hc : cmp c a <;> simp_all
    have hkept := fun c hc => Std.TransCmp.isLE_trans (foldl_least_isLE l _ List.mem_cons_self) (hle c hc)
    rcases List.mem_cons.1 hb with rfl | hb
    · exact hkept b (.inl rfl)
    · rcases List.mem_cons.1 hb with rfl | hb
      · exact hkept b (.inr rfl)
      · exact foldl_least_isLE l _ (List.mem_cons_of_mem _ hb)

theorem isLE_of_firstLeast? {α : Type} {cmp : α → α → Ordering} [Std.TransCmp cmp] {l : List α} {a b : α}
    (h : firstLeast? cmp l = some a) (hb : b ∈ l) : (cmp a b).isLE = true := by
  cases l with
  | nil => cases h
  | cons x l =>
    simp only [firstLeast?, Option.some.injEq] at h
    exact h ▸ foldl_least_isLE l x hb

end Crossroads
