import Crossroads.Proofs.Quadrants.CompletionOrder
import Crossroads.Proofs.Quadrants.StuckSet
/-!
# Requests for quadrants

What a request comes to is said once (`Allocator.requestQuadrants_cases`): it is invalid, denied or granted, and each
outcome leaves its own state.  From it follow the bounds that every history of calls keeps (`Allocator.Bounded.request`),
that a retry is never invalid (`Allocator.Bounded.retryPending_denied`), and that sums kept to a byte never run over
(`Allocator.Bounded.requestInBytes`).
-/
namespace Crossroads
namespace Allocator

variable {a b c : Allocator} {l m : Lane} {n total : Nat}

/-! ## The outcomes of a request -/

/-- A request that can be met: it is valid, enough is free, and once it is met every lane can still finish. -/
structure Grantable (a : Allocator) (l : Lane) (n : Nat) : Prop where
  pos : 1 ≤ n
  fits : a.allocation.get l + n ≤ a.total
  free : n ≤ a.available
  finishes : ∃ order, IsCompletionOrder a.total (a.allocation.set l (a.allocation.get l + n)) (a.request.set l 0) order

theorem safe_grant_iff : (a.grant l n).safe = true ↔
    ∃ order, IsCompletionOrder a.total (a.allocation.set l (a.allocation.get l + n)) (a.request.set l 0) order :=
  isSafe_eq_true_iff

/-- **What a request comes to.** -/
theorem requestQuadrants_cases (a : Allocator) (l : Lane) (n : Nat) :
    (n = 0 ∧ a.requestQuadrants l n = (.error (.invalidRequest l n .nothing), a)) ∨
    (1 ≤ n ∧ a.total < a.allocation.get l + n ∧
      a.requestQuadrants l n = (.error (.invalidRequest l n (.beyond a.total)), a)) ∨
    (1 ≤ n ∧ a.allocation.get l + n ≤ a.total ∧ ¬ a.Grantable l n ∧
      a.requestQuadrants l n = (.error (.resourceDenied l n a.available), a.pend l n)) ∨
    (a.Grantable l n ∧ a.requestQuadrants l n = (.ok (a.grant l n).available, a.grant l n)) := by
  unfold requestQuadrants
  by_cases h0 : n = 0
  · rw [if_pos h0]
    exact .inl ⟨h0, rfl⟩
  rw [if_neg h0]
  have hpos : 1 ≤ n := Nat.one_le_iff_ne_zero.2 h0
  by_cases hb : a.total < a.allocation.get l + n
  · rw [if_pos hb]
    exact .inr (.inl ⟨hpos, hb, rfl⟩)
  rw [if_neg hb]
  have hfits := Nat.le_of_not_lt hb
  by_cases hv : a.available < n
  · rw [if_pos hv]
    have hno : ¬ a.Grantable l n := fun g => Nat.not_lt.2 g.free hv
    exact .inr (.inr (.inl ⟨hpos, hfits, hno, rfl⟩))
  rw [if_neg hv]
  by_cases hs : (a.grant l n).safe = true
  · rw [if_pos hs]
    exact .inr (.inr (.inr ⟨⟨hpos, hfits, Nat.le_of_not_lt hv, safe_grant_iff.1 hs⟩, rfl⟩))
  · rw [if_neg hs]
    have hno : ¬ a.Grantable l n := fun g => hs (safe_grant_iff.2 g.finishes)
    exact .inr (.inr (.inl ⟨hpos, hfits, hno, rfl⟩))

theorem granted_of_ok {free : Nat} (h : (a.requestQuadrants l n).1 = .ok free) :
    a.Grantable l n ∧ (a.requestQuadrants l n).2 = a.grant l n ∧ free = (a.grant l n).available := by
  rcases a.requestQuadrants_cases l n with ⟨-, e⟩ | ⟨-, -, e⟩ | ⟨-, -, -, e⟩ | ⟨g, e⟩
  · rw [e] at h
    cases h
  · rw [e] at h
    cases h
  · rw [e] at h
    cases h
  · rw [e] at h ⊢
    exact ⟨g, rfl, (Except.ok.inj h).symm⟩

theorem ok_of_grantable (g : a.Grantable l n) : (a.requestQuadrants l n).1 = .ok (a.grant l n).available := by
  rcases a.requestQuadrants_cases l n with ⟨h0, -⟩ | ⟨-, hb, -⟩ | ⟨-, -, hno, -⟩ | ⟨-, e⟩
  · exact absurd g.pos (by omega)
  · exact absurd g.fits (Nat.not_le.2 hb)
  · exact absurd g hno
  · rw [e]

theorem refused_of_error {e : TrafficError} (h : (a.requestQuadrants l n).1 = .error e) :
    ((∃ reason, e = .invalidRequest l n reason) ∧ (a.requestQuadrants l n).2 = a) ∨
      (e = .resourceDenied l n a.available ∧ (a.requestQuadrants l n).2 = a.pend l n) := by
  rcases a.requestQuadrants_cases l n with ⟨-, r⟩ | ⟨-, -, r⟩ | ⟨-, -, -, r⟩ | ⟨-, r⟩ <;>
    rw [r] at h ⊢ <;> cases h
  · exact .inl ⟨⟨_, rfl⟩, rfl⟩
  · exact .inl ⟨⟨_, rfl⟩, rfl⟩
  · exact .inr ⟨rfl, rfl⟩

theorem retryPending_cases (a : Allocator) (l : Lane) :
    (a.request.get l = 0 ∧ a.retryPending l = (.ok none, a)) ∨
      (1 ≤ a.request.get l ∧ a.retryPending l =
        ((a.requestQuadrants l (a.request.get l)).1.map some, (a.requestQuadrants l (a.request.get l)).2)) := by
  unfold retryPending retry
  by_cases h0 : a.request.get l = 0
  · rw [if_pos h0]
    exact .inl ⟨h0, rfl⟩
  · rw [if_neg h0]
    refine .inr ⟨Nat.one_le_iff_ne_zero.2 h0, ?_⟩
    rcases a.requestQuadrants l (a.request.get l) with ⟨_ | _, _⟩ <;> rfl

/-! ## Bounds -/

/-- The lanes hold no more than there is, and none of them asks for more than that on top of what it holds. -/
structure Bounded (a : Allocator) : Prop where
  held : a.allocation.sum ≤ a.total
  asked : ∀ l, a.allocation.get l + a.request.get l ≤ a.total

theorem grant_allocation (a : Allocator) (l : Lane) (n : Nat) :
    (a.grant l n).allocation = a.allocation.set l (a.allocation.get l + n) := rfl

theorem sum_grant (a : Allocator) (l : Lane) (n : Nat) :
    (a.grant l n).allocation.sum = a.allocation.sum + n := by
  have hset := a.allocation.sum_set l (a.allocation.get l + n)
  rw [grant_allocation]
  omega

theorem sum_grant_le (hpos : 1 ≤ n) (hfree : n ≤ a.available) : (a.grant l n).allocation.sum ≤ a.total := by
  have hsum := sum_grant a l n
  rw [available] at hfree
  omega

theorem Bounded.fresh : Bounded { total := total } where
  held := by simp [PerLane.sum, PerLane.replicate]
  asked l := by simp

theorem Bounded.pend (h : a.Bounded) (hn : a.allocation.get l + n ≤ a.total) : (a.pend l n).Bounded where
  held := h.held
  asked m := by
    show a.allocation.get m + (a.request.set l n).get m ≤ a.total
    rw [PerLane.get_set]
    split
    · rename_i e
      rwa [e]
    · exact h.asked m

theorem Bounded.grant (h : a.Bounded) (g : a.Grantable l n) : (a.grant l n).Bounded where
  held := sum_grant_le g.pos g.free
  asked m := by
    show (a.allocation.set l (a.allocation.get l + n)).get m + (a.request.set l 0).get m ≤ a.total
    rw [PerLane.get_set, PerLane.get_set]
    split
    · exact g.fits
    · exact h.asked m

theorem Bounded.request (h : a.Bounded) (l : Lane) (n : Nat) : (a.requestQuadrants l n).2.Bounded := by
  rcases a.requestQuadrants_cases l n with ⟨-, e⟩ | ⟨-, -, e⟩ | ⟨-, hfits, -, e⟩ | ⟨g, e⟩ <;> rw [e]
  · exact h
  · exact h
  · exact h.pend hfits
  · exact h.grant g

theorem Bounded.retry (h : a.Bounded) (l : Lane) : (a.retryPending l).2.Bounded := by
  rcases a.retryPending_cases l with ⟨-, e⟩ | ⟨-, e⟩ <;> rw [e]
  · exact h
  · exact h.request l _

theorem Bounded.release (h : a.Bounded) (l : Lane) : (a.release l).2.Bounded where
  held := by
    have hset := a.allocation.sum_set l 0
    have hheld := h.held
    show (a.allocation.set l 0).sum ≤ a.total
    omega
  asked m := by
    have hm := h.asked m
    show (a.release l).2.allocation.get m + (a.release l).2.request.get m ≤ a.total
    rw [release_allocation, release_request]
    split
    · exact Nat.zero_le _
    · exact hm

/-- **A retry is never invalid**: what is pending was within the bounds when it was asked for, and still is. -/
theorem Bounded.retryPending_denied (h : a.Bounded) {e : TrafficError} (he : (a.retryPending l).1 = .error e) :
    e = .resourceDenied l (a.request.get l) a.available := by
  rcases a.retryPending_cases l with ⟨-, hr⟩ | ⟨hpos, hr⟩
  · rw [hr] at he
    cases he
  · have hasked := h.asked l
    rw [hr] at he
    rcases a.requestQuadrants_cases l (a.request.get l) with ⟨h0, -⟩ | ⟨-, hb, -⟩ | ⟨-, -, -, e'⟩ | ⟨-, e'⟩
    · omega
    · omega
    · rw [e'] at he
      cases he
      rfl
    · rw [e'] at he
      cases he

/-! ## Histories of calls -/

/-- The allocators that requests, retries and releases make of one. -/
inductive Becomes (a : Allocator) : Allocator → Prop where
  | refl : Becomes a a
  | request {b : Allocator} (l : Lane) (n : Nat) : Becomes a b → Becomes a (b.requestQuadrants l n).2
  | retry {b : Allocator} (l : Lane) : Becomes a b → Becomes a (b.retryPending l).2
  | release {b : Allocator} (l : Lane) : Becomes a b → Becomes a (b.release l).2

theorem Becomes.trans (h : a.Becomes b) (h' : b.Becomes c) : a.Becomes c := by
  induction h' with
  | refl => exact h
  | request l n _ ih => exact ih.request l n
  | retry l _ ih => exact ih.retry l
  | release l _ ih => exact ih.release l

theorem Becomes.bounded (h : a.Becomes b) (ha : a.Bounded) : b.Bounded := by
  induction h with
  | refl => exact ha
  | request l n _ ih => exact ih.request l n
  | retry l _ ih => exact ih.retry l
  | release l _ ih => exact ih.release l

theorem requestQuadrants_total (a : Allocator) (l : Lane) (n : Nat) : (a.requestQuadrants l n).2.total = a.total := by
  rcases a.requestQuadrants_cases l n with ⟨-, e⟩ | ⟨-, -, e⟩ | ⟨-, -, -, e⟩ | ⟨-, e⟩ <;> rw [e] <;> rfl

theorem Becomes.total_eq (h : a.Becomes b) : b.total = a.total := by
  induction h with
  | refl => rfl
  | request l n _ ih => rw [requestQuadrants_total, ih]
  | @retry b l _ ih =>
    rcases b.retryPending_cases l with ⟨-, e⟩ | ⟨-, e⟩
    · rw [e, ih]
    · rw [e, requestQuadrants_total, ih]
  | release l _ ih => exact ih

/-! ## Bytes -/

/-- The sum of two bytes, if it is a byte. -/
def addBytes? (x y : Nat) : Option Nat := if x + y < 256 then some (x + y) else none

/-- What is free, with the held quadrants added up in a byte. -/
def availableInBytes? (a : Allocator) : Option Nat := do
  let held ← Lane.all.foldlM (fun held l => addBytes? held (a.allocation.get l)) 0
  return a.total - held

/-- A request that keeps its sums in bytes; there is no outcome if one of them runs over. -/
def requestInBytes? (a : Allocator) (l : Lane) (count : Nat) : Option (Except TrafficError Nat × Allocator) :=
  if count = 0 then some (.error (.invalidRequest l count .nothing), a)
  else if a.total < a.allocation.get l + count then some (.error (.invalidRequest l count (.beyond a.total)), a)
  else do
    let available ← a.availableInBytes?
    if available < count then return (.error (.resourceDenied l count available), a.pend l count)
    let held ← addBytes? (a.allocation.get l) count
    let granted : Allocator := { a with allocation := a.allocation.set l held, request := a.request.set l 0 }
    if granted.safe then return (.ok (← granted.availableInBytes?), granted)
    else return (.error (.resourceDenied l count available), a.pend l count)

theorem addBytes?_eq {x y : Nat} (h : x + y < 256) : addBytes? x y = some (x + y) := if_pos h

/-- Quadrants are added up in a byte, lane by lane, if all of them together fit one. -/
theorem foldlM_addBytes? (held : PerLane Nat) : ∀ (ls : List Lane) (n : Nat), n + held.sumOver ls < 256 →
    ls.foldlM (fun n l => addBytes? n (held.get l)) n = some (n + held.sumOver ls)
  | [], n, _ => rfl
  | l :: ls, n, h => by
    rw [PerLane.sumOver] at h ⊢
    have hl : addBytes? n (held.get l) = some (n + held.get l) := addBytes?_eq (by omega)
    have ih := foldlM_addBytes? held ls (n + held.get l) (by omega)
    rw [List.foldlM_cons, hl, Option.bind_eq_bind, Option.bind_some, ih, Nat.add_assoc]

theorem availableInBytes?_eq (h : a.allocation.sum < 256) : a.availableInBytes? = some a.available := by
  have hsum := foldlM_addBytes? a.allocation Lane.all 0 (by rwa [Nat.zero_add, ← PerLane.sum_eq])
  rw [← PerLane.sum_eq, Nat.zero_add] at hsum
  rw [availableInBytes?, hsum]
  rfl

/-- **No sum of a request runs over a byte.** -/
theorem Bounded.requestInBytes (h : a.Bounded) (hbyte : a.total < 256) (l : Lane) (n : Nat) :
    a.requestInBytes? l n = some (a.requestQuadrants l n) := by
  have hheld := h.held
  unfold requestInBytes? requestQuadrants
  by_cases h0 : n = 0
  · rw [if_pos h0, if_pos h0]
  rw [if_neg h0, if_neg h0]
  by_cases hb : a.total < a.allocation.get l + n
  · rw [if_pos hb, if_pos hb]
  rw [if_neg hb, if_neg hb, availableInBytes?_eq (by omega)]
  by_cases hv : a.available < n
  · simp [hv]
  have hfree : n ≤ a.total - a.allocation.sum := Nat.le_of_not_lt hv
  have hgrant : (a.grant l n).availableInBytes? = some (a.grant l n).available := by
    refine availableInBytes?_eq ?_
    rw [sum_grant]
    omega
  have hadd : addBytes? (a.allocation.get l) n = some (a.allocation.get l + n) := addBytes?_eq (by omega)
  have hrec : ({ a with allocation := a.allocation.set l (a.allocation.get l + n), request := a.request.set l 0 } :
    Allocator) = a.grant l n := rfl
  by_cases hs : (a.grant l n).safe = true
  · simp [hv, hadd, hrec, hs, hgrant]
  · simp [hv, hadd, hrec, hs]

end Allocator
end Crossroads
