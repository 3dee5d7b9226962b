import Crossroads.Lane
import Crossroads.Double
/-!
# Execution history

A ring that keeps the newest entries up to its capacity, and the record of one time slice.  Pushing gives back the
entry it displaces; a ring of capacity zero displaces what is pushed (`Ring.push_append`: nothing is lost on the way).
-/
namespace Crossroads

/-- The newest entries of a sequence, oldest first. -/
structure Ring (α : Type) where
  capacity : Nat
  entries : List α := []
deriving DecidableEq

namespace Ring

variable {α : Type}

/-- The displaced entry, if any, and the ring with the new entry at its end. -/
def push (r : Ring α) (a : α) : Option α × Ring α :=
  if r.capacity = 0 then (some a, r)
  else if r.capacity ≤ r.entries.length then
    (r.entries.head?, { r with entries := r.entries.drop 1 ++ [a] })
  else (none, { r with entries := r.entries ++ [a] })

def clear (r : Ring α) : Ring α := { r with entries := [] }

def latest (r : Ring α) : Option α := r.entries.getLast?

def recent (r : Ring α) (n : Nat) : List α := r.entries.drop (r.entries.length - n)

theorem push_capacity (r : Ring α) (a : α) : (r.push a).2.capacity = r.capacity := by
  unfold push; split
  · rfl
  · split <;> rfl

theorem push_append (r : Ring α) (a : α) (h : r.entries.length ≤ r.capacity) :
    (r.push a).1.toList ++ (r.push a).2.entries = r.entries ++ [a] := by
  unfold push
  by_cases h0 : r.capacity = 0
  · have : r.entries = [] := List.eq_nil_of_length_eq_zero (by omega)
    simp [h0, this]
  · rw [if_neg h0]
    by_cases hf : r.capacity ≤ r.entries.length
    · rw [if_pos hf]
      cases he : r.entries with
      | nil => rw [he] at hf; simp at hf; exact absurd hf h0
      | cons b bs => simp
    · rw [if_neg hf]; rfl

theorem length_push (r : Ring α) (a : α) (h : r.entries.length ≤ r.capacity) :
    (r.push a).2.entries.length = min r.capacity (r.entries.length + 1) := by
  unfold push
  split
  · dsimp only
    omega
  split
  · simp
    omega
  · simp
    omega

theorem length_push_le (r : Ring α) (a : α) (h : r.entries.length ≤ r.capacity) :
    (r.push a).2.entries.length ≤ r.capacity := by
  rw [length_push r a h]
  exact Nat.min_le_left ..

/-- **A ring keeps the newest of what is pushed**, as many as it has room for. -/
theorem foldl_push : ∀ (xs : List α) {r : Ring α}, r.entries.length ≤ r.capacity →
    (∃ older, r.entries ++ xs = older ++ (xs.foldl (fun r x => (r.push x).2) r).entries) ∧
      (xs.foldl (fun r x => (r.push x).2) r).entries.length = min r.capacity (r.entries.length + xs.length)
  | [], r, h => ⟨⟨[], List.append_nil _⟩, (Nat.min_eq_right h).symm⟩
  | x :: xs, r, h => by
    have hle : (r.push x).2.entries.length ≤ (r.push x).2.capacity := by
      rw [push_capacity]
      exact length_push_le r x h
    obtain ⟨⟨older, hxs⟩, hcount⟩ := foldl_push xs hle
    have hsplit := push_append r x h
    rw [List.foldl_cons]
    refine ⟨⟨(r.push x).1.toList ++ older, ?_⟩, ?_⟩
    · rw [List.append_assoc, ← hxs, ← List.append_assoc, hsplit, List.append_assoc]
      rfl
    · rw [hcount, push_capacity, length_push r x h, List.length_cons]
      omega

end Ring

structure SliceRecord where
  lane : Lane
  startMs : Nat
  endMs : Nat
  vehicles : Nat
deriving DecidableEq

/-- How long a slice took; a clock that went back counts as no time. -/
def SliceRecord.durationMs (r : SliceRecord) : Nat := r.endMs - r.startMs

namespace Ring

def vehiclesInWindow (r : Ring SliceRecord) : Nat := r.entries.foldl (fun n e => n + e.vehicles) 0

/-- Vehicles per minute from the start of the oldest slice to the end of the newest; zero over no time. -/
def throughputPerMinute (r : Ring SliceRecord) : Float :=
  match r.entries.head?, r.latest with
  | some first, some last =>
    let span := last.endMs - first.startMs
    if span = 0 then 0.0 else Double.ofNat r.vehiclesInWindow * 60000.0 / Double.ofNat span
  | _, _ => 0.0

end Ring

end Crossroads
