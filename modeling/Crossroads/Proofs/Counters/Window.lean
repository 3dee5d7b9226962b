import Mathlib.Algebra.Group.Action.Defs
import Mathlib.Algebra.Order.BigOperators.Group.List
import Mathlib.Algebra.Order.Ring.Nat
import Mathlib.Data.List.DropRight
import Mathlib.Data.List.ReduceOption
import Crossroads.History
/-!
# The ring as a window

Whatever is pushed on a ring and whenever it is cleared, its entries are the newest of what was pushed since the last
clear, as many as the capacity allows, and the older ones were given back in order (`Ring.window`).
-/
namespace Crossroads

/-- A call that changes a ring. -/
inductive RingCall (α : Type) where
  | push (a : α)
  | clear
deriving DecidableEq

variable {α : Type}

namespace RingCall

def pushed? : RingCall α → Option α
  | push a => some a
  | clear  => none

/-- The calls after the last clear. -/
def sinceClear (calls : List (RingCall α)) : List (RingCall α) := calls.rtakeWhile (fun c => c.pushed?.isSome)

/-- What was pushed since the last clear, oldest first. -/
def pushed (calls : List (RingCall α)) : List α := (sinceClear calls).filterMap pushed?

theorem sinceClear_push (calls : List (RingCall α)) (a : α) :
    sinceClear (calls ++ [push a]) = sinceClear calls ++ [push a] :=
  List.rtakeWhile_concat_pos _ _ _ rfl

theorem sinceClear_clear (calls : List (RingCall α)) : sinceClear (calls ++ [clear]) = [] :=
  List.rtakeWhile_concat_neg _ _ _ Bool.false_ne_true

theorem pushed_push (calls : List (RingCall α)) (a : α) : pushed (calls ++ [push a]) = pushed calls ++ [a] := by
  rw [pushed, sinceClear_push, List.filterMap_append]
  rfl

theorem pushed_clear (calls : List (RingCall α)) : pushed (calls ++ [clear]) = [] := by
  rw [pushed, sinceClear_clear]
  rfl

end RingCall

namespace Ring

open RingCall (pushed sinceClear)

def answer (r : Ring α) : RingCall α → Option α
  | .push a => (r.push a).1
  | .clear  => none

def perform (r : Ring α) : RingCall α → Ring α
  | .push a => (r.push a).2
  | .clear  => r.clear

def answers (r : Ring α) : List (RingCall α) → List (Option α)
  | []         => []
  | c :: calls => r.answer c :: (r.perform c).answers calls

/-- A ring that was empty before some calls. -/
def ofCalls (capacity : Nat) (calls : List (RingCall α)) : Ring α := calls.foldl perform { capacity }

/-- What the calls since the last clear gave back, in order. -/
def returned (capacity : Nat) (calls : List (RingCall α)) : List α :=
  ((answers { capacity } calls).rtake (sinceClear calls).length).reduceOption

theorem ofCalls_concat (capacity : Nat) (calls : List (RingCall α)) (c : RingCall α) :
    ofCalls capacity (calls ++ [c]) = (ofCalls capacity calls).perform c := by
  rw [ofCalls, List.foldl_concat, ofCalls]

theorem answers_concat (c : RingCall α) : ∀ (calls : List (RingCall α)) (r : Ring α),
    r.answers (calls ++ [c]) = r.answers calls ++ [(calls.foldl perform r).answer c]
  | [], _ => rfl
  | d :: calls, r => congrArg (r.answer d :: ·) (answers_concat c calls (r.perform d))

theorem returned_push (capacity : Nat) (calls : List (RingCall α)) (a : α) :
    returned capacity (calls ++ [.push a]) =
      returned capacity calls ++ ((ofCalls capacity calls).push a).1.toList := by
  rw [returned, answers_concat, RingCall.sinceClear_push, List.length_append, List.length_singleton,
    List.rtake_concat_succ, List.reduceOption_append, ofCalls, answer]
  cases ((calls.foldl perform { capacity }).push a).1 <;> rfl

theorem returned_clear (capacity : Nat) (calls : List (RingCall α)) : returned capacity (calls ++ [.clear]) = [] := by
  rw [returned, RingCall.sinceClear_clear, List.length_nil, List.rtake_zero]
  rfl

/-- Every call leaves what was pushed since the last clear split in two: what was given back, and what is kept. -/
structure Window (capacity : Nat) (calls : List (RingCall α)) : Prop where
  capacity_eq : (ofCalls capacity calls).capacity = capacity
  length_eq : (ofCalls capacity calls).entries.length = min capacity (pushed calls).length
  append_eq : returned capacity calls ++ (ofCalls capacity calls).entries = pushed calls

theorem window_push {capacity : Nat} {calls : List (RingCall α)} (w : Window capacity calls) (a : α) :
    Window capacity (calls ++ [.push a]) := by
  have hfits : (ofCalls capacity calls).entries.length ≤ (ofCalls capacity calls).capacity := by
    rw [w.capacity_eq, w.length_eq]
    exact Nat.min_le_left ..
  refine ⟨?_, ?_, ?_⟩
  · rw [ofCalls_concat, perform, push_capacity, w.capacity_eq]
  · rw [ofCalls_concat, perform, length_push _ _ hfits, w.capacity_eq, w.length_eq, RingCall.pushed_push,
      List.length_append, List.length_singleton]
    omega
  · rw [ofCalls_concat, perform, returned_push, RingCall.pushed_push, List.append_assoc, push_append _ _ hfits,
      ← List.append_assoc, w.append_eq]

theorem window_clear {capacity : Nat} {calls : List (RingCall α)} (w : Window capacity calls) :
    Window capacity (calls ++ [.clear]) := by
  refine ⟨?_, ?_, ?_⟩
  · rw [ofCalls_concat, perform, clear, w.capacity_eq]
  · rw [ofCalls_concat, perform, clear, RingCall.pushed_clear, List.length_nil, Nat.min_zero]
  · rw [ofCalls_concat, perform, clear, returned_clear, RingCall.pushed_clear, List.nil_append]

theorem window_ofCalls (capacity : Nat) (calls : List (RingCall α)) : Window capacity calls := by
  induction calls using List.reverseRecOn with
  | nil => exact ⟨rfl, (Nat.min_zero capacity).symm, rfl⟩
  | append_singleton calls c ih =>
    cases c with
    | push a => exact window_push ih a
    | clear => exact window_clear ih

/-- A list that ends a longer one is what the longer one has last. -/
theorem eq_rtake_of_append_eq {xs ys zs : List α} (h : xs ++ ys = zs) : ys = zs.rtake ys.length := by
  rw [← h, List.rtake, List.length_append, Nat.add_sub_cancel, List.drop_left]

theorem Window.entries_eq {capacity : Nat} {calls : List (RingCall α)} (w : Window capacity calls) :
    (ofCalls capacity calls).entries = (pushed calls).rtake (min capacity (pushed calls).length) := by
  rw [← w.length_eq]
  exact eq_rtake_of_append_eq w.append_eq

/-- One more push gives back nothing while there is room; else the oldest of what is kept and the new entry. -/
theorem Window.push_fst {capacity : Nat} {calls : List (RingCall α)} (w : Window capacity calls) (a : α) :
    ((ofCalls capacity calls).push a).1 =
      if (pushed calls).length < capacity then none else (pushed calls ++ [a])[(pushed calls).length - capacity]? := by
  have hlen := w.length_eq
  rw [push, w.capacity_eq]
  by_cases h0 : capacity = 0
  · subst h0
    rw [if_pos rfl, if_neg (Nat.not_lt_zero _), Nat.sub_zero, List.getElem?_concat_length]
  · rw [if_neg h0]
    by_cases hroom : (pushed calls).length < capacity
    · rw [if_neg (by omega), if_pos hroom]
    · have hmin : min capacity (pushed calls).length = capacity := Nat.min_eq_left (Nat.le_of_not_lt hroom)
      rw [if_pos (by omega), if_neg hroom, List.getElem?_append_left (by omega), List.head?_eq_getElem?, w.entries_eq,
        hmin, List.rtake, List.getElem?_drop, Nat.add_zero]

theorem vehiclesInWindow_eq_sum (r : Ring SliceRecord) : r.vehiclesInWindow = (r.entries.map (·.vehicles)).sum := by
  rw [vehiclesInWindow, List.sum_eq_foldl, List.foldl_map]

/-- **The entries are the newest of what was pushed since the last clear**, as many as there is room for; what was given
back since then is the rest, in order; and the vehicles of the window are those of these entries. -/
theorem window (capacity : Nat) :
    (∀ {α : Type} (calls : List (RingCall α)),
      (ofCalls capacity calls).entries = (pushed calls).rtake (min capacity (pushed calls).length) ∧
      (ofCalls capacity calls).entries.length = min capacity (pushed calls).length ∧
      returned capacity calls ++ (ofCalls capacity calls).entries = pushed calls ∧
      ∀ a, ((ofCalls capacity calls).push a).1 =
        if (pushed calls).length < capacity then none else (pushed calls ++ [a])[(pushed calls).length - capacity]?) ∧
    ∀ calls : List (RingCall SliceRecord), (ofCalls capacity calls).vehiclesInWindow =
      (((pushed calls).rtake (min capacity (pushed calls).length)).map (·.vehicles)).sum := by
  refine ⟨fun calls => ?_, fun calls => ?_⟩
  · have w := window_ofCalls capacity calls
    exact ⟨w.entries_eq, w.length_eq, w.append_eq, w.push_fst⟩
  · rw [vehiclesInWindow_eq_sum, (window_ofCalls capacity calls).entries_eq]

example : (ofCalls 2 [.push 1, .clear, .push 2, .push 3, .push 4]).entries = [3, 4] ∧
    returned 2 [.push 1, .clear, .push 2, .push 3, .push 4] = [2] := by decide

/-- A window of fewer than 2³² slices has vehicles that 64 bits can count. -/
theorem vehiclesInWindow_lt {r : Ring SliceRecord} (hlen : r.entries.length < 2 ^ 32)
    (hs : ∀ s ∈ r.entries, s.vehicles < 2 ^ 32) : r.vehiclesInWindow < 2 ^ 64 := by
  have hle : (r.entries.map (·.vehicles)).sum ≤ r.entries.length * 2 ^ 32 := by
    have h := List.sum_le_card_nsmul (r.entries.map (·.vehicles)) (2 ^ 32) (fun n hn => by
      obtain ⟨s, hm, rfl⟩ := List.mem_map.1 hn
      exact Nat.le_of_lt (hs s hm))
    rwa [List.length_map, smul_eq_mul] at h
  rw [vehiclesInWindow_eq_sum]
  omega

end Ring
end Crossroads
