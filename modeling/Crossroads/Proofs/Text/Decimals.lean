import Crossroads.Json
/-!
# Decimals

What is written in decimal: digits, and the value they are read back as (`digitsValue_digits`).  Values are read from
left to right, while the digits are written from right to left: the digits of a number are those of its tenth and one
more, and reading them comes to that one more digit.
-/
namespace Crossroads.Text

variable {c : Char} {cs : List Char} {d n : Nat}

theorem digitValue?_digitChar (h : d < 10) : digitValue? (digitChar d) = some d := by
  have hall : ∀ d < 10, digitValue? (digitChar d) = some d := by decide
  exact hall d h

theorem toNat_digitChar (h : d < 10) : (digitChar d).toNat - 48 = d := by
  have hall : ∀ d < 10, (digitChar d).toNat - 48 = d := by decide
  exact hall d h

theorem digits_of_lt (h : n < 10) : digits n = [digitChar n] := by
  rw [digits, if_pos h]

theorem digits_of_not_lt (h : ¬ n < 10) : digits n = digits (n / 10) ++ [digitChar (n % 10)] := by
  rw [digits, if_neg h]

theorem digits_ne_nil (n : Nat) : digits n ≠ [] := by
  by_cases h : n < 10
  · simp [digits_of_lt h]
  · simp [digits_of_not_lt h]

theorem exists_of_mem_digits : c ∈ digits n → ∃ d < 10, c = digitChar d := by
  induction n using digits.induct with
  | case1 n h =>
    rw [digits_of_lt h, List.mem_singleton]
    exact fun hc => ⟨n, h, hc⟩
  | case2 n h ih =>
    rw [digits_of_not_lt h, List.mem_append, List.mem_singleton]
    rintro (hc | hc)
    · exact ih hc
    · exact ⟨n % 10, Nat.mod_lt _ (by decide), hc⟩

theorem eq_zero_of_digits : digits n = '0' :: cs → n = 0 := by
  induction n using digits.induct generalizing cs with
  | case1 n h =>
    have hall : ∀ n < 10, digitChar n = '0' → n = 0 := by decide
    rw [digits_of_lt h]
    exact fun hn => hall n h (List.cons.inj hn).1
  | case2 n h ih =>
    rw [digits_of_not_lt h]
    intro hn
    obtain ⟨c, cs', ht⟩ := List.exists_cons_of_ne_nil (digits_ne_nil (n / 10))
    rw [ht] at hn
    obtain ⟨rfl, -⟩ := List.cons.inj hn
    have hzero := ih ht
    omega

theorem toList_intText (i : Int) : (intText i).toList = if i < 0 then '-' :: digits i.natAbs else digits i.natAbs := by
  cases i with
  | ofNat n => simp [intText, natText]
  | negSucc n => simp [intText, natText, Int.negSucc_lt_zero]

theorem digitsValue_digits (n : Nat) : digitsValue (digits n) = n := by
  induction n using digits.induct with
  | case1 n h => simp [digits_of_lt h, digitsValue, toNat_digitChar h]
  | case2 n h ih =>
    rw [digitsValue] at ih ⊢
    rw [digits_of_not_lt h, List.foldl_append, ih, List.foldl_cons, List.foldl_nil,
      toNat_digitChar (Nat.mod_lt _ (by decide))]
    omega

end Crossroads.Text
