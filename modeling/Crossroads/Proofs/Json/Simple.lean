import Crossroads.Proofs.Json.Texts
/-!
# Simple values

Nulls, booleans, integers of 64 bits and texts, and arrays and objects of these.  A simple value is whole
(`IsSimple.isWhole`): the digits of an integer of 64 bits are all among the leading ones, so it needs no scaling.
-/
namespace Crossroads

namespace Numeral

open Text (digits digitsValue digitsValue_digits)

theorem le_foldl_digits : ∀ (ds : List Char) (acc : Nat), acc ≤ ds.foldl (fun n d => 10 * n + (d.toNat - 48)) acc
  | [], acc => Nat.le_refl acc
  | d :: ds, acc => by
    have hrest := le_foldl_digits ds (10 * acc + (d.toNat - 48))
    rw [List.foldl_cons]
    omega

/-- Digits whose value fits 64 bits are leading ones, to the last. -/
theorem leading_eq : ∀ {ds : List Char} {acc : Nat},
    ds.foldl (fun n d => 10 * n + (d.toNat - 48)) acc ≤ 18446744073709551615 →
      leading acc ds = (ds.foldl (fun n d => 10 * n + (d.toNat - 48)) acc, 0)
  | [], _, _ => rfl
  | d :: ds, acc, h => by
    rw [List.foldl_cons] at h ⊢
    have hfits : ¬ 18446744073709551615 < 10 * acc + (d.toNat - 48) :=
      Nat.not_lt.2 (Nat.le_trans (le_foldl_digits ds _) h)
    rw [leading]
    simp only [if_neg hfits]
    exact leading_eq h

theorem fitsDouble_ofInt {i : Int} (h : i.natAbs ≤ 18446744073709551615) : (ofInt i).fitsDouble = true := by
  have hvalue : digitsValue (digits i.natAbs) = i.natAbs := digitsValue_digits _
  have hwhole : leading 0 (digits i.natAbs) = (i.natAbs, 0) := by
    rw [digitsValue] at hvalue
    rw [leading_eq (by rwa [hvalue]), hvalue]
  have hplaces : scales i.natAbs 0 = true := by simp [scales]
  simp only [fitsDouble, ofInt, hwhole]
  exact hplaces

end Numeral

namespace Json

variable {j : Json} {items : List Json} {members : List (List TextUnit × Json)} {n : Nat}

/-- Nulls, booleans, integers of 64 bits with or without a sign and texts, and arrays and objects of simple values. -/
inductive IsSimple : Json → Prop where
  | null : IsSimple null
  | bool (b : Bool) : IsSimple (bool b)
  | number {i : Int} (hlo : -9223372036854775808 ≤ i) (hhi : i ≤ 18446744073709551615) : IsSimple (number (.ofInt i))
  | string {units : List TextUnit} (htext : (TextUnit.text? units).isSome) : IsSimple (string units)
  | array {items : List Json} (hitems : ∀ j ∈ items, IsSimple j) : IsSimple (array items)
  | object {members : List (List TextUnit × Json)} (hnames : ∀ m ∈ members, (TextUnit.text? m.1).isSome)
      (hvalues : ∀ m ∈ members, IsSimple m.2) : IsSimple (object members)

theorem itemsWhole_iff : itemsWhole items ↔ ∀ j ∈ items, j.isWhole := by
  induction items with
  | nil => simp [itemsWhole]
  | cons j js ih => rw [itemsWhole, Bool.and_eq_true, ih, List.forall_mem_cons]

theorem membersWhole_iff :
    membersWhole members ↔ ∀ m ∈ members, (TextUnit.text? m.1).isSome ∧ m.2.isWhole := by
  induction members with
  | nil => simp [membersWhole]
  | cons m ms ih => rw [membersWhole, Bool.and_eq_true, Bool.and_eq_true, ih, List.forall_mem_cons]

theorem membersDepth_le_iff : membersDepth members ≤ n ↔ ∀ m ∈ members, m.2.depth ≤ n := by
  induction members with
  | nil => simp [membersDepth]
  | cons m ms ih => rw [membersDepth, Nat.max_le, ih, List.forall_mem_cons]

theorem isWhole_string (cs : List Char) : (string (cs.map .scalar)).isWhole = true := by
  rw [isWhole, TextUnit.text?_map_scalar]
  rfl

theorem isWhole_ofInt {i : Int} (hlo : -9223372036854775808 ≤ i) (hhi : i ≤ 18446744073709551615) :
    (number (.ofInt i)).isWhole = true := by
  rw [isWhole]
  exact Numeral.fitsDouble_ofInt (by omega)

/-- **Simple values are whole.** -/
theorem IsSimple.isWhole (h : IsSimple j) : j.isWhole = true := by
  induction h with
  | null => rfl
  | bool b => rfl
  | number hlo hhi => exact isWhole_ofInt hlo hhi
  | string htext => rwa [Json.isWhole]
  | array _ ih => rwa [Json.isWhole, itemsWhole_iff]
  | object hnames _ ih =>
    rw [Json.isWhole, membersWhole_iff]
    exact fun m hm => ⟨hnames m hm, ih m hm⟩

end Json
end Crossroads
