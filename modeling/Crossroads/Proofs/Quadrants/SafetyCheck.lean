import Crossroads.Proofs.Quadrants.CompletionOrder
import Crossroads.Proofs.Quadrants.StuckSet
/-!
# The safety check

The check goes round by round: in each round the first unfinished lane whose need is met finishes and gives back what
it holds, and the check is over when there is no such lane.  What is free is kept in a word of 16 bits, quadrants are
bytes.  A check is over after four rounds at most, the word stays exact all along, and the answer is whether some order
of the lanes lets all of them finish (`SafetyCheck.isSafe_exact`).
-/
namespace Crossroads

/-- A safety check under way: the lanes that have yet to finish, and what is free. -/
structure SafetyCheck where
  unfinished : List Lane
  free : UInt16

namespace SafetyCheck

variable {total : UInt8} {held need : PerLane UInt8} {s t u : SafetyCheck} {n k : Nat} {l : Lane}

/-- What all lanes hold, added up in a word. -/
def heldWord (held : PerLane UInt8) : UInt16 := Lane.all.foldl (fun sum l => sum + (held.get l).toUInt16) 0

/-- A check begins with all lanes, unless they hold more than there is. -/
def start? (total : UInt8) (held : PerLane UInt8) : Option SafetyCheck :=
  if total.toUInt16 < heldWord held then none else some ⟨Lane.all, total.toUInt16 - heldWord held⟩

def next? (held need : PerLane UInt8) (s : SafetyCheck) : Option SafetyCheck :=
  (s.unfinished.find? (fun l => (need.get l).toUInt16 ≤ s.free)).map fun l =>
    ⟨s.unfinished.erase l, s.free + (held.get l).toUInt16⟩

inductive Rounds (held need : PerLane UInt8) : Nat → SafetyCheck → SafetyCheck → Prop where
  | none (s : SafetyCheck) : Rounds held need 0 s s
  | next {n : Nat} {s t u : SafetyCheck} : s.next? held need = some t → Rounds held need n t u →
      Rounds held need (n + 1) s u

abbrev counts (p : PerLane UInt8) : PerLane Nat := p.map UInt8.toNat

@[simp] theorem get_counts (p : PerLane UInt8) (l : Lane) : (counts p).get l = (p.get l).toNat := PerLane.get_map _ _ _

/-! ## Words -/

theorem sumOver_counts_le (p : PerLane UInt8) : ∀ ls : List Lane, (counts p).sumOver ls ≤ 255 * ls.length
  | [] => Nat.le_refl 0
  | l :: ls => by
    have ih := sumOver_counts_le p ls
    have hbyte := (p.get l).toNat_lt
    rw [PerLane.sumOver, get_counts, List.length_cons]
    omega

theorem toNat_foldl_held (held : PerLane UInt8) : ∀ (ls : List Lane) (w : UInt16),
    w.toNat + (counts held).sumOver ls < 65536 →
      (ls.foldl (fun sum l => sum + (held.get l).toUInt16) w).toNat = w.toNat + (counts held).sumOver ls
  | [], _, _ => rfl
  | l :: ls, w, h => by
    rw [PerLane.sumOver, get_counts] at h ⊢
    have hadd : (w + (held.get l).toUInt16).toNat = w.toNat + (held.get l).toNat := by
      rw [UInt16.toNat_add, UInt8.toNat_toUInt16, Nat.mod_eq_of_lt (by omega)]
    rw [List.foldl_cons, toNat_foldl_held held ls _ (by omega), hadd, Nat.add_assoc]

theorem toNat_heldWord (held : PerLane UInt8) : (heldWord held).toNat = (counts held).sum := by
  have hle := sumOver_counts_le held Lane.all
  have hlen : Lane.all.length = 4 := rfl
  rw [heldWord, toNat_foldl_held held Lane.all 0 (by rw [UInt16.toNat_zero]; omega), UInt16.toNat_zero, Nat.zero_add,
    PerLane.sum_eq]

theorem find?_counts (need : PerLane UInt8) (s : SafetyCheck) :
    s.unfinished.find? (fun l => (need.get l).toUInt16 ≤ s.free) =
      s.unfinished.find? (fun l => (counts need).get l ≤ s.free.toNat) := by
  congr 1
  funext l
  rw [get_counts, decide_eq_decide, UInt16.le_iff_toNat_le, UInt8.toNat_toUInt16]

/-! ## Rounds -/

/-- What is free and what the unfinished lanes hold is all there is, and each round has finished a lane. -/
structure Exact (total : UInt8) (held : PerLane UInt8) (n : Nat) (s : SafetyCheck) : Prop where
  total_eq : s.free.toNat + (counts held).sumOver s.unfinished = total.toNat
  rounds : n + s.unfinished.length = 4

theorem start?_eq_none_iff : start? total held = none ↔ total.toNat < (counts held).sum := by
  rw [start?, ← toNat_heldWord, ← UInt8.toNat_toUInt16, ← UInt16.lt_iff_toNat_lt]
  split <;> simp_all

theorem start?_eq_some (h : start? total held = some s) :
    (counts held).sum ≤ total.toNat ∧ s.unfinished = Lane.all ∧ s.free.toNat = total.toNat - (counts held).sum := by
  have hle : (counts held).sum ≤ total.toNat := Nat.not_lt.1 fun hlt => by
    rw [start?_eq_none_iff.2 hlt] at h
    cases h
  rw [start?] at h
  split at h
  · cases h
  · cases h
    refine ⟨hle, rfl, ?_⟩
    have hword : heldWord held ≤ total.toUInt16 := by
      rwa [UInt16.le_iff_toNat_le, toNat_heldWord, UInt8.toNat_toUInt16]
    rw [UInt16.toNat_sub_of_le _ _ hword, UInt8.toNat_toUInt16, toNat_heldWord]

theorem Exact.start (h : start? total held = some s) : s.Exact total held 0 := by
  obtain ⟨hle, hall, hfree⟩ := start?_eq_some h
  refine ⟨?_, ?_⟩
  · rw [hall, hfree, ← PerLane.sum_eq]
    omega
  · rw [hall]
    rfl

theorem next?_eq_some (h : s.next? held need = some t) : ∃ l ∈ s.unfinished,
    s.unfinished.find? (fun l => (counts need).get l ≤ s.free.toNat) = some l ∧
      t = ⟨s.unfinished.erase l, s.free + (held.get l).toUInt16⟩ := by
  obtain ⟨l, hfind, rfl⟩ := Option.map_eq_some_iff.1 h
  rw [find?_counts] at hfind
  exact ⟨l, List.mem_of_find?_eq_some hfind, hfind, rfl⟩

theorem Exact.toNat_add (h : s.Exact total held n) (hl : l ∈ s.unfinished) :
    (s.free + (held.get l).toUInt16).toNat = s.free.toNat + (counts held).get l := by
  have hsum := (counts held).sumOver_erase hl
  have htotal := h.total_eq
  have hbyte := total.toNat_lt
  rw [get_counts] at hsum ⊢
  rw [UInt16.toNat_add, UInt8.toNat_toUInt16, Nat.mod_eq_of_lt (by omega)]

theorem Exact.next (h : s.Exact total held n) (hst : s.next? held need = some t) : t.Exact total held (n + 1) := by
  obtain ⟨l, hl, -, rfl⟩ := next?_eq_some hst
  have hsum := (counts held).sumOver_erase hl
  have hlen := List.length_erase_of_mem hl
  have hpos := List.length_pos_of_mem hl
  have htotal := h.total_eq
  have hrounds := h.rounds
  refine ⟨?_, ?_⟩
  · show (s.free + (held.get l).toUInt16).toNat + (counts held).sumOver (s.unfinished.erase l) = total.toNat
    rw [h.toNat_add hl]
    omega
  · show n + 1 + (s.unfinished.erase l).length = 4
    omega

theorem Exact.rounds_of (h : s.Exact total held n) (hr : Rounds held need k s t) : t.Exact total held (n + k) := by
  induction hr generalizing n with
  | none s => exact h
  | next hst _ ih =>
    have ht := ih (h.next hst)
    rwa [Nat.add_right_comm, Nat.add_assoc] at ht

/-- **The sweep is what the rounds come to.** -/
theorem exists_rounds (need : PerLane UInt8) : ∀ (rounds : Nat) {n : Nat} {s : SafetyCheck}, s.Exact total held n →
    s.unfinished.length ≤ rounds → ∃ k t, Rounds held need k s t ∧ t.next? held need = none ∧
      finishAll (counts held) (counts need) rounds s.unfinished s.free.toNat = t.unfinished.isEmpty
  | 0, _, s, _, hlen => by
    have hnil : s.unfinished = [] := List.eq_nil_of_length_eq_zero (Nat.le_zero.1 hlen)
    exact ⟨0, s, .none s, by rw [next?, hnil]; rfl, rfl⟩
  | rounds + 1, n, s, h, hlen => by
    rw [finishAll]
    cases hst : s.next? held need with
    | none =>
      have hfind : s.unfinished.find? (fun l => (counts need).get l ≤ s.free.toNat) = none := by
        rw [← find?_counts]
        exact Option.map_eq_none_iff.1 hst
      exact ⟨0, s, .none s, hst, by rw [hfind]⟩
    | some t =>
      obtain ⟨l, hl, hfind, rfl⟩ := next?_eq_some hst
      have hfewer : (s.unfinished.erase l).length ≤ rounds := by
        have hpos := List.length_pos_of_mem hl
        rw [List.length_erase_of_mem hl]
        omega
      obtain ⟨k, u, hr, hend, hall⟩ := exists_rounds need rounds (h.next hst) hfewer
      refine ⟨k + 1, u, .next hst hr, hend, ?_⟩
      rw [hfind, ← hall]
      show _ = finishAll _ _ _ (s.unfinished.erase l) (s.free + (held.get l).toUInt16).toNat
      rw [h.toNat_add hl]

end SafetyCheck

/-! ## Orders -/

/-- Each lane of an order finds its need met from what is free and what the lanes before it give back. -/
theorem finishes_iff {allocation need : PerLane Nat} : ∀ {order : List Lane} {free : Nat},
    Finishes allocation need free order ↔
      ∀ before l after, order = before ++ l :: after → need.get l ≤ free + allocation.sumOver before
  | [], free => by simp [Finishes]
  | m :: order, free => by
    rw [Finishes, finishes_iff]
    constructor
    · rintro ⟨hm, hrest⟩ before l after he
      cases before with
      | nil =>
        obtain ⟨rfl, -⟩ := List.cons.inj he
        exact hm
      | cons k before =>
        obtain ⟨rfl, he'⟩ := List.cons.inj he
        have hl := hrest before l after he'
        rw [PerLane.sumOver]
        omega
    · intro h
      refine ⟨h [] m order rfl, fun before l after he => ?_⟩
      have hl := h (m :: before) l after (by rw [he]; rfl)
      rw [PerLane.sumOver] at hl
      omega

namespace SafetyCheck

/-- **The safety check is exact.**  It answers whether the lanes hold no more than there is and some order of the four
lets each find its need met from what is free and what the lanes before it give back.  No run of it has more than four
rounds, it is over where no lane can finish, and until then what is free is a word that never exceeds the total. -/
theorem isSafe_exact (total : UInt8) (held need : PerLane UInt8) :
    (isSafe total.toNat (counts held) (counts need) = true ↔
      (counts held).sum ≤ total.toNat ∧ ∃ order : List Lane, order.Perm Lane.all ∧
        ∀ before l after, order = before ++ l :: after →
          (counts need).get l ≤ total.toNat - (counts held).sum + (counts held).sumOver before) ∧
    (start? total held = none → isSafe total.toNat (counts held) (counts need) = false) ∧
    ∀ s, start? total held = some s →
      (∃ n t, Rounds held need n s t ∧ t.next? held need = none ∧
        isSafe total.toNat (counts held) (counts need) = t.unfinished.isEmpty) ∧
      ∀ n t, Rounds held need n s t → n ≤ 4 ∧ t.free.toNat ≤ total.toNat ∧
        t.free.toNat + (counts held).sumOver t.unfinished = total.toNat := by
  refine ⟨?_, fun hnone => ?_, fun s hs => ⟨?_, fun n t hr => ?_⟩⟩
  · rw [isSafe_eq_true_iff]
    constructor
    · rintro ⟨order, hperm, hsum, hfin⟩
      exact ⟨hsum, order, hperm, finishes_iff.1 hfin⟩
    · rintro ⟨hsum, order, hperm, hfin⟩
      exact ⟨order, hperm, hsum, finishes_iff.2 hfin⟩
  · have hlt := start?_eq_none_iff.1 hnone
    rw [isSafe, decide_eq_false (Nat.not_le.2 hlt), Bool.false_and]
  · obtain ⟨hle, hunfinished, hfree⟩ := start?_eq_some hs
    have h := Exact.start hs
    have hlen := h.rounds
    obtain ⟨n, t, hr, hend, hall⟩ := exists_rounds need 4 h (by omega)
    rw [hunfinished, hfree] at hall
    exact ⟨n, t, hr, hend, by rw [isSafe, decide_eq_true hle, Bool.true_and, hall]⟩
  · have h := (Exact.start hs).rounds_of hr
    have htotal := h.total_eq
    have hrounds := h.rounds
    exact ⟨by omega, by omega, htotal⟩

end SafetyCheck
end Crossroads
