import Crossroads.Proofs.Text.Decimals
/-!
# Numerals

Which texts are read as a number of a range, and as which number: digits with or without a sign in front of them, a
minus only where the range has negative numbers, and the number they say lies in the range (`readInt_eq_ok_iff`).  The
reader refuses the first value on its way that has left the range; values on the way only grow, so it refuses exactly
the texts that say a number out of the range.  What is written in decimal is a numeral, so it is read back
(`readInt_intText`).
-/
namespace Crossroads.Text

variable {cs ds : List Char} {acc : Nat} {n : Int} {r : Range}

/-- Whether a text has digits only, and at least one. -/
def IsDigits (ds : List Char) : Prop := ds ≠ [] ∧ ∀ c ∈ ds, '0' ≤ c ∧ c ≤ '9'

/-- Whether a text is a numeral of a range for a number. -/
inductive IsNumeral (r : Range) : List Char → Int → Prop where
  | plain {ds : List Char} : IsDigits ds → digitsValue ds ≤ r.hi → IsNumeral r ds (digitsValue ds)
  | plus {ds : List Char} : IsDigits ds → digitsValue ds ≤ r.hi → IsNumeral r ('+' :: ds) (digitsValue ds)
  | minus {ds : List Char} : IsDigits ds → r.lo < 0 → r.lo ≤ -digitsValue ds →
    IsNumeral r ('-' :: ds) (-digitsValue ds)

/-! ## Digits -/

/-- The value of some digits after a value that was read before them. -/
def valueFrom (acc : Nat) (ds : List Char) : Nat := ds.foldl (fun n d => 10 * n + (d.toNat - 48)) acc

theorem le_valueFrom : ∀ (acc : Nat) (ds : List Char), acc ≤ valueFrom acc ds
  | _, [] => Nat.le_refl _
  | acc, d :: ds => Nat.le_trans (by omega) (le_valueFrom (10 * acc + (d.toNat - 48)) ds)

theorem digitValue?_eq_none_iff {c : Char} : digitValue? c = none ↔ ¬ ('0' ≤ c ∧ c ≤ '9') := by
  simp [digitValue?]

theorem digitValue?_of_digit {c : Char} (h : '0' ≤ c ∧ c ≤ '9') : digitValue? c = some (c.toNat - 48) := by
  rw [digitValue?, if_pos h]

/-- Reading upwards comes to the value of the digits, if it lies in the range. -/
theorem readUp_eq_ok_iff (hacc : (acc : Int) ≤ r.hi) :
    readUp r acc cs = .ok n ↔
      (∀ c ∈ cs, '0' ≤ c ∧ c ≤ '9') ∧ (valueFrom acc cs : Int) ≤ r.hi ∧ n = valueFrom acc cs := by
  induction cs generalizing acc with
  | nil => simp [readUp, valueFrom, hacc, eq_comm]
  | cons c cs ih =>
    by_cases hc : '0' ≤ c ∧ c ≤ '9'
    · have hstep : (acc : Int) * 10 + (c.toNat - 48 : Nat) = (10 * acc + (c.toNat - 48) : Nat) := by omega
      have hvalue : valueFrom acc (c :: cs) = valueFrom (10 * acc + (c.toNat - 48)) cs := rfl
      have hgrows := le_valueFrom (10 * acc + (c.toNat - 48)) cs
      rw [readUp, digitValue?_of_digit hc, hvalue]
      simp only [hstep, List.forall_mem_cons, hc, true_and]
      split
      · rename_i hover
        simp only [reduceCtorEq, false_iff, not_and]
        omega
      · rename_i hfits
        exact ih (Int.not_lt.1 hfits)
    · rw [readUp, digitValue?_eq_none_iff.2 hc]
      simp [hc]

/-- Reading downwards is reading upwards in the mirrored range. -/
theorem readDown_eq_ok_iff : ∀ (cs : List Char) (acc n : Int),
    readDown r acc cs = .ok n ↔ readUp ⟨-r.hi, -r.lo⟩ (-acc) cs = .ok (-n)
  | [], acc, n => by simp [readDown, readUp]
  | c :: cs, acc, n => by
    rw [readDown, readUp]
    cases digitValue? c with
    | none => simp
    | some d =>
      have hstep : -acc * 10 + d = -(acc * 10 - d) := by omega
      have hover : -r.lo < -(acc * 10 - d) ↔ acc * 10 - d < r.lo := by omega
      simp only [hstep, hover]
      split
      · simp
      · exact readDown_eq_ok_iff cs _ n

/-! ## Signs -/

theorem readInt_plus (h : ds ≠ []) : readInt r ('+' :: ds) = readUp r 0 ds := by
  rw [readInt]
  exact h

theorem readInt_minus (h : ds ≠ []) :
    readInt r ('-' :: ds) = if r.lo < 0 then readDown r 0 ds else .error .badDigit := by
  rw [readInt]
  exact h

theorem IsDigits.readInt_eq (h : IsDigits cs) : readInt r cs = readUp r 0 cs := by
  obtain ⟨hne, hdigits⟩ := h
  cases cs with
  | nil => exact absurd rfl hne
  | cons c cs =>
    have hplus : c ≠ '+' := fun hc => absurd (hdigits c List.mem_cons_self) (by rw [hc]; decide)
    have hminus : c ≠ '-' := fun hc => absurd (hdigits c List.mem_cons_self) (by rw [hc]; decide)
    rw [readInt] <;> simp [hplus, hminus]

theorem readUp_zero_eq_ok_iff (h : 0 ≤ r.hi) (hne : cs ≠ []) :
    readUp r 0 cs = .ok n ↔ IsDigits cs ∧ digitsValue cs ≤ r.hi ∧ n = digitsValue cs := by
  rw [IsDigits, and_iff_right hne]
  exact readUp_eq_ok_iff h

theorem readDown_zero_eq_ok_iff (h : r.lo ≤ 0) (hne : cs ≠ []) :
    readDown r 0 cs = .ok n ↔ IsDigits cs ∧ r.lo ≤ -digitsValue cs ∧ n = -digitsValue cs := by
  rw [readDown_eq_ok_iff, Int.neg_zero, readUp_zero_eq_ok_iff (Int.neg_nonneg.2 h) hne]
  refine and_congr_right fun _ => ?_
  show (digitsValue cs : Int) ≤ -r.lo ∧ -n = digitsValue cs ↔ _
  omega

theorem IsNumeral.readInt_eq (h : IsNumeral r cs n) : readInt r cs = .ok n := by
  cases h with
  | plain hdigits hle =>
    rw [hdigits.readInt_eq]
    exact (readUp_zero_eq_ok_iff (by omega) hdigits.1).2 ⟨hdigits, hle, rfl⟩
  | plus hdigits hle =>
    rw [readInt_plus hdigits.1]
    exact (readUp_zero_eq_ok_iff (by omega) hdigits.1).2 ⟨hdigits, hle, rfl⟩
  | minus hdigits hneg hle =>
    rw [readInt_minus hdigits.1, if_pos hneg]
    exact (readDown_zero_eq_ok_iff (Int.le_of_lt hneg) hdigits.1).2 ⟨hdigits, hle, rfl⟩

/-- **A text is read as a number of a range exactly if it is a numeral for it.** -/
theorem readInt_eq_ok_iff (hlo : r.lo ≤ 0) (hhi : 0 ≤ r.hi) : readInt r cs = .ok n ↔ IsNumeral r cs n := by
  refine ⟨fun h => ?_, IsNumeral.readInt_eq⟩
  unfold readInt at h
  split at h
  · cases h
  · cases h
  · cases h
  · rename_i hne
    obtain ⟨hdigits, hle, rfl⟩ := (readUp_zero_eq_ok_iff hhi hne).1 h
    exact .plus hdigits hle
  · rename_i hne
    split at h
    · rename_i hneg
      obtain ⟨hdigits, hle, rfl⟩ := (readDown_zero_eq_ok_iff hlo hne).1 h
      exact .minus hdigits hneg hle
    · cases h
  · rename_i hne _ _ _ _
    obtain ⟨hdigits, hle, rfl⟩ := (readUp_zero_eq_ok_iff hhi hne).1 h
    exact .plain hdigits hle

/-! ## Decimals -/

theorem isDigits_digits (m : Nat) : IsDigits (digits m) := by
  have hrange : ∀ d < 10, '0' ≤ digitChar d ∧ digitChar d ≤ '9' := by decide
  refine ⟨digits_ne_nil m, fun c hc => ?_⟩
  obtain ⟨d, hd, rfl⟩ := exists_of_mem_digits hc
  exact hrange d hd

theorem isNumeral_digits (m : Nat) (hhi : m ≤ r.hi) : IsNumeral r (digits m) m := by
  have hplain := IsNumeral.plain (isDigits_digits m) (by rwa [digitsValue_digits])
  rwa [digitsValue_digits] at hplain

theorem isNumeral_minus_digits (m : Nat) (hneg : r.lo < 0) (hlo : r.lo ≤ -m) : IsNumeral r ('-' :: digits m) (-m) := by
  have hminus := IsNumeral.minus (isDigits_digits m) hneg (by rwa [digitsValue_digits])
  rwa [digitsValue_digits] at hminus

/-- **A whole number of a range is read back from its text.** -/
theorem readInt_intText (hlo : r.lo ≤ n) (hhi : n ≤ r.hi) : readInt r (intText n).toList = .ok n := by
  rw [toList_intText]
  split
  · rw [(isNumeral_minus_digits _ (by omega) (by omega)).readInt_eq]
    congr 1
    omega
  · rw [(isNumeral_digits _ (by omega)).readInt_eq]
    congr 1
    omega

end Crossroads.Text
