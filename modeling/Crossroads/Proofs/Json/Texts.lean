import Crossroads.Json.Reader
import Crossroads.Proofs.Text.Decimals
import Mathlib.Data.List.TakeDrop
/-!
# Texts of JSON values

A value has many texts: gaps may stand between tokens, a character of a string may be escaped, and the members of an
object come in the order in which the value has them.  `Json.IsText` says which texts a value has, if its numbers are
whole.  The reader reads every one of them (`readValue_text`), whatever follows, as long as that does not go on with a
number.
-/
namespace Crossroads

def Numeral.ofInt (i : Int) : Numeral where
  negative := decide (i < 0)
  whole := Text.digits i.natAbs

theorem Numeral.integer?_ofInt (i : Int) : (ofInt i).integer? = some i := by
  have hvalue : Text.digitsValue (Text.digits i.natAbs) = i.natAbs := Text.digitsValue_digits _
  have hinteger : (ofInt i).isInteger = true := rfl
  rw [integer?, if_pos hinteger]
  by_cases h : i < 0
  · have hne : i.natAbs ≠ 0 := by omega
    have hi : -(i.natAbs : Int) = i := by omega
    simp only [ofInt, hvalue, h, hne, decide_true, if_true, if_false, hi]
  · have hi : (i.natAbs : Int) = i := by omega
    simp only [ofInt, hvalue, h, decide_false, Bool.false_eq_true, if_false, hi]

namespace Json

variable {c : Char} {cs rest gap : List Char} {fuel : Nat}

theorem intIn?_ofInt {r : Text.Range} {i : Int} (hlo : r.lo ≤ i) (hhi : i ≤ r.hi) :
    (number (.ofInt i)).intIn? r = some i := by
  have hin : r.contains i = true := by simp [Text.Range.contains, hlo, hhi]
  rw [intIn?, Numeral.integer?_ofInt, Option.filter_some, if_pos hin]

theorem natIn?_ofInt {r : Text.Range} {n : Nat} (hlo : r.lo ≤ n) (hhi : n ≤ r.hi) :
    (number (.ofInt n)).natIn? r = some n := by
  rw [natIn?, intIn?_ofInt hlo hhi]
  rfl

theorem choice?_string {α : Type} {ofName? : String → Option α} {name : String} {a : α} (h : ofName? name = some a)
    (isEmptyContent : Json → Bool) : (string (name.toList.map .scalar)).choice? ofName? isEmptyContent = some a := by
  rw [choice?, TextUnit.text?_map_scalar, Option.bind_some, String.ofList_toList, h]

/-! ## The texts of a value -/

def IsGap (cs : List Char) : Prop := ∀ c ∈ cs, isGap c = true

instance (cs : List Char) : Decidable (IsGap cs) := decidable_of_iff (cs.all isGap = true) List.all_eq_true

/-- The texts of the units of a string, each as it is or escaped. -/
inductive UnitsText : List TextUnit → List Char → Prop where
  | nil : UnitsText [] []
  | plain {c : Char} {us : List TextUnit} {cs : List Char} (hcontrol : 0x20 ≤ c.toNat) (hquote : c ≠ '"')
      (hescape : c ≠ '\\') : UnitsText us cs → UnitsText (.scalar c :: us) (c :: cs)
  | letter {e c : Char} {us : List TextUnit} {cs : List Char} (hletter : escaped? e = some c) :
      UnitsText us cs → UnitsText (.scalar c :: us) ('\\' :: e :: cs)
  | code {a b c d : Char} {u : TextUnit} {us : List TextUnit} {cs : List Char} (hcode : hexUnit? a b c d = some u) :
      UnitsText us cs → UnitsText (u :: us) ('\\' :: 'u' :: a :: b :: c :: d :: cs)

def isPlain (c : Char) : Bool := 0x20 ≤ c.toNat ∧ c ≠ '"' ∧ c ≠ '\\'

theorem UnitsText.of_plain : cs.all isPlain = true → UnitsText (cs.map .scalar) cs := by
  induction cs with
  | nil => exact fun _ => .nil
  | cons c cs ih =>
    intro h
    simp only [List.all_cons, Bool.and_eq_true, isPlain, decide_eq_true_eq] at h
    obtain ⟨⟨hcontrol, hquote, hescape⟩, h⟩ := h
    exact .plain hcontrol hquote hescape (ih h)

/-- The texts of a member's name, with the gap before it and everything up to the value. -/
def NameText (key : List TextUnit) (cs : List Char) : Prop :=
  ∃ before body between after, IsGap before ∧ UnitsText key body ∧ IsGap between ∧ IsGap after ∧
    cs = before ++ '"' :: (body ++ '"' :: (between ++ ':' :: after))

mutual

/-- The texts of a value whose numbers are whole. -/
def IsText : Json → List Char → Prop
  | null, cs           => cs = ['n', 'u', 'l', 'l']
  | bool true, cs      => cs = ['t', 'r', 'u', 'e']
  | bool false, cs     => cs = ['f', 'a', 'l', 's', 'e']
  | number n, cs       => ∃ i : Int, n = .ofInt i ∧ cs = (Text.intText i).toList
  | string units, cs   => ∃ body, UnitsText units body ∧ cs = '"' :: (body ++ ['"'])
  | array items, cs    => ∃ body, ItemsText items body ∧ cs = '[' :: body
  | object members, cs => ∃ body, MembersText members body ∧ cs = '\x7b' :: body

/-- The texts of the items of an array, with the closing bracket. -/
def ItemsText : List Json → List Char → Prop
  | [], cs => ∃ gap, IsGap gap ∧ cs = gap ++ [']']
  | [j], cs => ∃ before body after, IsGap before ∧ IsText j body ∧ IsGap after ∧
      cs = before ++ (body ++ (after ++ [']']))
  | j :: k :: js, cs => ∃ before body after tail, IsGap before ∧ IsText j body ∧ IsGap after ∧
      ItemsText (k :: js) tail ∧ cs = before ++ (body ++ (after ++ ',' :: tail))

/-- The texts of the members of an object, with the closing brace. -/
def MembersText : List (List TextUnit × Json) → List Char → Prop
  | [], cs => ∃ gap, IsGap gap ∧ cs = gap ++ ['\x7d']
  | [(key, j)], cs => ∃ head body after, NameText key head ∧ IsText j body ∧ IsGap after ∧
      cs = head ++ (body ++ (after ++ ['\x7d']))
  | (key, j) :: m :: ms, cs => ∃ head body after tail, NameText key head ∧ IsText j body ∧ IsGap after ∧
      MembersText (m :: ms) tail ∧ cs = head ++ (body ++ (after ++ ',' :: tail))

end

/-! ## Gaps -/

theorem skipGap_append (h : IsGap gap) : skipGap (gap ++ rest) = skipGap rest :=
  List.dropWhile_append_of_pos h

theorem skipGap_cons (h : isGap c = false) : skipGap (c :: rest) = c :: rest := by
  simp [skipGap, h]

theorem skipGap_skipGap (cs : List Char) : skipGap (skipGap cs) = skipGap cs := by
  induction cs with
  | nil => rfl
  | cons c cs ih =>
    cases h : isGap c with
    | true => simpa [skipGap, h] using ih
    | false => rw [skipGap_cons h, skipGap_cons h]

/-- What follows does not go on with a number. -/
def Stops (cs : List Char) : Prop :=
  ∀ c t, cs = c :: t → isDigit c = false ∧ c ≠ '.' ∧ c ≠ 'e' ∧ c ≠ 'E'

theorem stops_of_isGap (h : isGap c = true) : Stops (c :: rest) := by
  simp only [isGap, Bool.or_eq_true, decide_eq_true_eq] at h
  rintro _ _ ⟨rfl, -⟩
  rcases h with ((rfl | rfl) | rfl) | rfl <;> decide

theorem Stops.append (hgap : IsGap gap) (h : Stops rest) : Stops (gap ++ rest) := by
  cases gap with
  | nil => exact h
  | cons c gap => exact stops_of_isGap (hgap c List.mem_cons_self)

/-! ## Strings and numbers -/

theorem readUnits_text {us : List TextUnit} (h : UnitsText us cs) (rest : List Char) :
    readUnits (cs ++ '"' :: rest) = some (us, rest) := by
  induction h with
  | nil => rfl
  | @plain c us cs hcontrol hquote hescape _ ih =>
    have hkept : ¬ (c.toNat < 0x20 ∨ c = '\\') := by
      rintro (hlt | he)
      · exact Nat.not_lt.2 hcontrol hlt
      · exact hescape he
    rw [List.cons_append, readUnits, if_neg hkept, ih]
    · rfl
    all_goals simp [hquote, hescape]
  | @letter e c us cs hletter _ ih =>
    have hu : e ≠ 'u' := by
      rintro rfl
      cases hletter
    rw [List.cons_append, List.cons_append, readUnits, ih, hletter]
    · rfl
    · simp [hu]
  | @code a b c d u us cs hcode _ ih => simp [readUnits, hcode, ih]

theorem readDigits_append {ds : List Char} (hne : ds ≠ []) (hds : ∀ c ∈ ds, isDigit c = true) (h : Stops rest) :
    readDigits (ds ++ rest) = some (ds, rest) := by
  have hrest : rest.takeWhile isDigit = [] ∧ rest.dropWhile isDigit = rest := by
    cases rest with
    | nil => exact ⟨rfl, rfl⟩
    | cons c t => simp [(h c t rfl).1]
  have hspan : (ds ++ rest).span isDigit = (ds, rest) := by
    rw [List.span_eq_takeWhile_dropWhile, List.takeWhile_append_of_pos hds, List.dropWhile_append_of_pos hds, hrest.1,
      hrest.2, List.append_nil]
  obtain ⟨c, cs, rfl⟩ := List.exists_cons_of_ne_nil hne
  rw [readDigits, hspan]

theorem isDigit_of_mem_digits {n : Nat} (h : c ∈ Text.digits n) : isDigit c = true := by
  obtain ⟨d, hd, rfl⟩ := Text.exists_of_mem_digits h
  rw [isDigit, Text.digitValue?_digitChar hd]
  rfl

theorem readWhole_digits (n : Nat) (h : Stops rest) :
    readWhole (Text.digits n ++ rest) = some (Text.digits n, rest) := by
  have hread := readDigits_append (Text.digits_ne_nil n) (fun c hc => isDigit_of_mem_digits hc) h
  obtain ⟨c, cs, hd⟩ := List.exists_cons_of_ne_nil (Text.digits_ne_nil n)
  by_cases hc : c = '0'
  · -- a zero at the front is the whole number
    subst hc
    have hn : n = 0 := Text.eq_zero_of_digits hd
    have hzero : Text.digits 0 = ['0'] := Text.digits_of_lt (by decide)
    rw [hn, hzero]
    rfl
  · rw [hd] at hread ⊢
    rw [List.cons_append, readWhole]
    · exact hread
    · simp [hc]

theorem readFraction_of_stops (h : Stops rest) : readFraction rest = some ([], rest) := by
  cases rest with
  | nil => rfl
  | cons c t =>
    rw [readFraction]
    simp [(h c t rfl).2.1]

theorem readExponent_of_stops (h : Stops rest) : readExponent rest = some (none, rest) := by
  cases rest with
  | nil => rfl
  | cons c t =>
    rw [readExponent]
    all_goals simp [(h c t rfl).2.2]

theorem readUnsigned_digits (n : Nat) (negative : Bool) (h : Stops rest) :
    readUnsigned negative (Text.digits n ++ rest) = some ({ negative, whole := Text.digits n }, rest) := by
  rw [readUnsigned, readWhole_digits n h]
  simp only [Option.bind_eq_bind, Option.bind_some, readFraction_of_stops h, readExponent_of_stops h]
  rfl

/-- **A whole number is read back**, if what follows does not go on with it. -/
theorem readNumber_text (i : Int) (h : Stops rest) :
    readNumber ((Text.intText i).toList ++ rest) = some (.ofInt i, rest) := by
  rw [Text.toList_intText, Numeral.ofInt]
  by_cases hi : i < 0
  · rw [if_pos hi, decide_eq_true hi, List.cons_append, readNumber, readUnsigned_digits _ _ h]
  · rw [if_neg hi, decide_eq_false hi]
    have hread := readUnsigned_digits i.natAbs false h
    obtain ⟨c, cs, hd⟩ := List.exists_cons_of_ne_nil (Text.digits_ne_nil i.natAbs)
    have hminus : c ≠ '-' := by
      rintro rfl
      have hdigit := isDigit_of_mem_digits (hd ▸ List.mem_cons_self : '-' ∈ Text.digits i.natAbs)
      revert hdigit
      decide
    rw [hd] at hread ⊢
    rw [List.cons_append, readNumber]
    · exact hread
    · simp [hminus]

/-! ## Values -/

theorem exists_head_intText (i : Int) : ∃ c t, (Text.intText i).toList = c :: t ∧ (c = '-' ∨ isDigit c = true) := by
  rw [Text.toList_intText]
  split
  · exact ⟨_, _, rfl, .inl rfl⟩
  · obtain ⟨c, t, hd⟩ := List.exists_cons_of_ne_nil (Text.digits_ne_nil i.natAbs)
    exact ⟨c, t, hd, .inr (isDigit_of_mem_digits (hd ▸ List.mem_cons_self))⟩

/-- No value begins with a blank or with the bracket that ends an array. -/
theorem IsText.head : ∀ {j : Json}, IsText j cs → ∃ c t, cs = c :: t ∧ isGap c = false ∧ c ≠ ']'
  | null, h | bool true, h | bool false, h => by
    rw [IsText] at h
    exact ⟨_, _, h, by decide, by decide⟩
  | number n, h => by
    rw [IsText] at h
    obtain ⟨i, -, rfl⟩ := h
    obtain ⟨c, t, ht, hc⟩ := exists_head_intText i
    refine ⟨c, t, ht, ?_, ?_⟩
    · rcases hc with rfl | hc
      · decide
      · refine Bool.eq_false_iff.2 fun hgap => ?_
        have hstops : Stops [c] := stops_of_isGap hgap
        rw [(hstops c [] rfl).1] at hc
        cases hc
    · rintro rfl
      revert hc
      decide
  | string units, h => by
    rw [IsText] at h
    obtain ⟨body, -, rfl⟩ := h
    exact ⟨_, _, rfl, by decide, by decide⟩
  | array items, h => by
    rw [IsText] at h
    obtain ⟨body, -, rfl⟩ := h
    exact ⟨_, _, rfl, by decide, by decide⟩
  | object members, h => by
    rw [IsText] at h
    obtain ⟨body, -, rfl⟩ := h
    exact ⟨_, _, rfl, by decide, by decide⟩

theorem readItems_skipGap (fuel : Nat) (cs : List Char) : readItems fuel (skipGap cs) = readItems fuel cs := by
  cases fuel with
  | zero => rw [readItems, readItems]
  | succ fuel => rw [readItems, readItems, skipGap_skipGap]

theorem readMembers_skipGap (fuel : Nat) (cs : List Char) : readMembers fuel (skipGap cs) = readMembers fuel cs := by
  cases fuel with
  | zero => rw [readMembers, readMembers]
  | succ fuel => rw [readMembers, readMembers, skipGap_skipGap]

theorem readValue_number (i : Int) (fuel : Nat) (h : Stops rest) :
    readValue (fuel + 1) ((Text.intText i).toList ++ rest) = some (number (.ofInt i), rest) := by
  have hread := readNumber_text i h
  obtain ⟨c, t, ht, hc⟩ := exists_head_intText i
  have hne : c ≠ 'n' ∧ c ≠ 't' ∧ c ≠ 'f' ∧ c ≠ '"' ∧ c ≠ '[' ∧ c ≠ '\x7b' := by
    refine ⟨?_, ?_, ?_, ?_, ?_, ?_⟩ <;> (rintro rfl; revert hc; decide)
  rw [ht] at hread ⊢
  rw [List.cons_append] at hread ⊢
  rw [readValue, hread]
  · rfl
  all_goals simp [hne]

theorem skipGap_value {j : Json} {before body : List Char} (hbefore : IsGap before) (hj : IsText j body)
    (rest : List Char) : skipGap (before ++ (body ++ rest)) = body ++ rest := by
  obtain ⟨c, t, rfl, hc, -⟩ := hj.head
  rw [skipGap_append hbefore, List.cons_append, skipGap_cons hc]

theorem stops_comma (rest : List Char) : Stops (',' :: rest) := by
  rintro _ _ ⟨rfl, -⟩
  decide

theorem stops_bracket (rest : List Char) : Stops (']' :: rest) := by
  rintro _ _ ⟨rfl, -⟩
  decide

theorem stops_brace (rest : List Char) : Stops ('\x7d' :: rest) := by
  rintro _ _ ⟨rfl, -⟩
  decide

section

variable {j : Json} {key : List TextUnit} {before head body after tail : List Char}

theorem readItems_close (hbefore : IsGap before) (hj : IsText j body) (hafter : IsGap after)
    (hread : readValue fuel (body ++ (after ++ ']' :: tail)) = some (j, after ++ ']' :: tail)) :
    readItems (fuel + 1) (before ++ (body ++ (after ++ ']' :: tail))) = some ([j], tail) := by
  rw [readItems, skipGap_value hbefore hj, hread]
  simp only [Option.bind_eq_bind, Option.bind_some, skipGap_append hafter, skipGap_cons (by decide : isGap ']' = false)]
  rfl

theorem readItems_comma {js : List Json} (hbefore : IsGap before) (hj : IsText j body) (hafter : IsGap after)
    (hread : readValue fuel (body ++ (after ++ ',' :: tail)) = some (j, after ++ ',' :: tail))
    (htail : readItems fuel tail = some (js, rest)) :
    readItems (fuel + 1) (before ++ (body ++ (after ++ ',' :: tail))) = some (j :: js, rest) := by
  rw [readItems, skipGap_value hbefore hj, hread]
  simp only [Option.bind_eq_bind, Option.bind_some, skipGap_append hafter, skipGap_cons (by decide : isGap ',' = false),
    htail]
  rfl

theorem readMembers_name (hhead : NameText key head) (hj : IsText j body) (rest : List Char) :
    readMembers (fuel + 1) (head ++ (body ++ rest)) =
      (readValue fuel (body ++ rest)).bind fun p =>
        match skipGap p.2 with
        | '\x7d' :: rest => some ([(key, p.1)], rest)
        | ',' :: rest => (readMembers fuel rest).bind fun q => some ((key, p.1) :: q.1, q.2)
        | _ => none := by
  obtain ⟨before, units, between, behind, hbefore, hunits, hbetween, hbehind, rfl⟩ := hhead
  have hquote : isGap '"' = false := by decide
  have hcolon : isGap ':' = false := by decide
  simp only [List.append_assoc, List.cons_append]
  rw [readMembers, skipGap_append hbefore, skipGap_cons hquote]
  simp only [readUnits_text hunits, Option.bind_eq_bind, Option.bind_some, skipGap_append hbetween, skipGap_cons hcolon,
    skipGap_value hbehind hj]
  rfl

theorem readMembers_close (hhead : NameText key head) (hj : IsText j body) (hafter : IsGap after)
    (hread : readValue fuel (body ++ (after ++ '\x7d' :: tail)) = some (j, after ++ '\x7d' :: tail)) :
    readMembers (fuel + 1) (head ++ (body ++ (after ++ '\x7d' :: tail))) = some ([(key, j)], tail) := by
  rw [readMembers_name hhead hj, hread, Option.bind_some, skipGap_append hafter, skipGap_cons (by decide)]
  rfl

theorem readMembers_comma {ms : List (List TextUnit × Json)} (hhead : NameText key head) (hj : IsText j body)
    (hafter : IsGap after) (hread : readValue fuel (body ++ (after ++ ',' :: tail)) = some (j, after ++ ',' :: tail))
    (htail : readMembers fuel tail = some (ms, rest)) :
    readMembers (fuel + 1) (head ++ (body ++ (after ++ ',' :: tail))) = some ((key, j) :: ms, rest) := by
  rw [readMembers_name hhead hj, hread, Option.bind_some, skipGap_append hafter, skipGap_cons (by decide)]
  simp only [htail, Option.bind_some]

/-- What an array with items goes on with is no closing bracket. -/
theorem ItemsText.skipGap_eq {js : List Json} (h : ItemsText (j :: js) cs) (rest : List Char) :
    ∃ c t, skipGap (cs ++ rest) = c :: t ∧ c ≠ ']' := by
  have hfirst : ∃ before body tail, IsGap before ∧ IsText j body ∧ cs = before ++ (body ++ tail) := by
    cases js with
    | nil =>
      rw [ItemsText] at h
      obtain ⟨before, body, after, hbefore, hj, -, rfl⟩ := h
      exact ⟨before, body, _, hbefore, hj, rfl⟩
    | cons k js =>
      rw [ItemsText] at h
      obtain ⟨before, body, after, tail, hbefore, hj, -, -, rfl⟩ := h
      exact ⟨before, body, _, hbefore, hj, rfl⟩
  obtain ⟨before, body, tail, hbefore, hj, rfl⟩ := hfirst
  obtain ⟨c, t, rfl, -, hc⟩ := id hj.head
  refine ⟨c, t ++ (tail ++ rest), ?_, hc⟩
  rw [List.append_assoc, List.append_assoc, skipGap_value hbefore hj, List.cons_append]

theorem MembersText.skipGap_eq {ms : List (List TextUnit × Json)} (h : MembersText ((key, j) :: ms) cs)
    (rest : List Char) : ∃ t, skipGap (cs ++ rest) = '"' :: t := by
  have hfirst : ∃ head tail, NameText key head ∧ cs = head ++ tail := by
    cases ms with
    | nil =>
      rw [MembersText] at h
      obtain ⟨head, body, after, hhead, -, -, rfl⟩ := h
      exact ⟨head, _, hhead, rfl⟩
    | cons m ms =>
      rw [MembersText] at h
      obtain ⟨head, body, after, tail, hhead, -, -, -, rfl⟩ := h
      exact ⟨head, _, hhead, rfl⟩
  obtain ⟨head, tail, ⟨before, units, between, behind, hbefore, -, -, -, rfl⟩, rfl⟩ := hfirst
  rw [List.append_assoc, List.append_assoc, skipGap_append hbefore, List.cons_append]
  exact ⟨_, skipGap_cons (by decide)⟩

end

mutual

/-- **Every text of a value is read**, whatever follows, as long as that does not go on with a number. -/
theorem readValue_text : ∀ (j : Json) {cs rest : List Char} {fuel : Nat}, IsText j cs → cs.length ≤ fuel → Stops rest →
    readValue fuel (cs ++ rest) = some (j, rest)
  | j, cs, rest, 0, h, hfuel, _ => by
    obtain ⟨c, t, rfl, -⟩ := h.head
    cases hfuel
  | null, _, _, _ + 1, h, _, _ | bool true, _, _, _ + 1, h, _, _ | bool false, _, _, _ + 1, h, _, _ => by
    rw [IsText] at h
    subst h
    rfl
  | number n, _, _, fuel + 1, h, _, hrest => by
    rw [IsText] at h
    obtain ⟨i, rfl, rfl⟩ := h
    exact readValue_number i fuel hrest
  | string units, _, rest, fuel + 1, h, _, _ => by
    rw [IsText] at h
    obtain ⟨body, hbody, rfl⟩ := h
    rw [List.cons_append, List.append_assoc, List.singleton_append, readValue, readUnits_text hbody]
    rfl
  | array [], _, rest, fuel + 1, h, _, _ => by
    rw [IsText] at h
    obtain ⟨_, hbody, rfl⟩ := h
    rw [ItemsText] at hbody
    obtain ⟨gap, hgap, rfl⟩ := hbody
    rw [List.cons_append, List.append_assoc, readValue, skipGap_append hgap, List.singleton_append,
      skipGap_cons (by decide)]
    rfl
  | array (j :: js), _, rest, fuel + 1, h, hfuel, _ => by
    rw [IsText] at h
    obtain ⟨body, hbody, rfl⟩ := h
    obtain ⟨c, t, hskip, hc⟩ := hbody.skipGap_eq rest
    have hitems : readItems fuel (body ++ rest) = some (j :: js, rest) :=
      readItems_text (j :: js) (by simp) hbody (Nat.le_of_succ_le_succ hfuel)
    rw [← readItems_skipGap, hskip] at hitems
    rw [List.cons_append, readValue, hskip]
    split
    · rename_i heq
      exact absurd (List.cons.inj heq).1 hc
    · rw [hitems]
      rfl
  | object [], _, rest, fuel + 1, h, _, _ => by
    rw [IsText] at h
    obtain ⟨_, hbody, rfl⟩ := h
    rw [MembersText] at hbody
    obtain ⟨gap, hgap, rfl⟩ := hbody
    rw [List.cons_append, List.append_assoc, readValue, skipGap_append hgap, List.singleton_append,
      skipGap_cons (by decide)]
    rfl
  | object ((key, j) :: ms), _, rest, fuel + 1, h, hfuel, _ => by
    rw [IsText] at h
    obtain ⟨body, hbody, rfl⟩ := h
    obtain ⟨t, hskip⟩ := hbody.skipGap_eq rest
    have hmembers : readMembers fuel (body ++ rest) = some ((key, j) :: ms, rest) :=
      readMembers_text ((key, j) :: ms) (by simp) hbody (Nat.le_of_succ_le_succ hfuel)
    rw [← readMembers_skipGap, hskip] at hmembers
    rw [List.cons_append, readValue, hskip]
    show (readMembers fuel ('"' :: t)).map _ = _
    rw [hmembers]
    rfl

theorem readItems_text : ∀ (items : List Json) {cs rest : List Char} {fuel : Nat}, items ≠ [] → ItemsText items cs →
    cs.length ≤ fuel → readItems fuel (cs ++ rest) = some (items, rest)
  | [], _, _, _, h, _, _ => absurd rfl h
  | [j], _, rest, fuel, _, h, hfuel => by
    rw [ItemsText] at h
    obtain ⟨before, body, after, hbefore, hj, hafter, rfl⟩ := h
    simp only [List.length_append, List.length_singleton] at hfuel
    obtain ⟨fuel, rfl⟩ := Nat.exists_eq_add_one_of_ne_zero (n := fuel) (by omega)
    have hread := readValue_text j hj (by omega : body.length ≤ fuel) (.append hafter (stops_bracket rest))
    simpa using readItems_close hbefore hj hafter hread
  | j :: k :: js, _, rest, fuel, _, h, hfuel => by
    rw [ItemsText] at h
    obtain ⟨before, body, after, tail, hbefore, hj, hafter, htail, rfl⟩ := h
    simp only [List.length_append, List.length_cons] at hfuel
    obtain ⟨fuel, rfl⟩ := Nat.exists_eq_add_one_of_ne_zero (n := fuel) (by omega)
    have hread := readValue_text j hj (by omega : body.length ≤ fuel) (.append hafter (stops_comma (tail ++ rest)))
    have hitems : readItems fuel (tail ++ rest) = some (k :: js, rest) :=
      readItems_text (k :: js) (by simp) htail (by omega)
    simpa using readItems_comma hbefore hj hafter hread hitems

theorem readMembers_text : ∀ (members : List (List TextUnit × Json)) {cs rest : List Char} {fuel : Nat}, members ≠ [] →
    MembersText members cs → cs.length ≤ fuel → readMembers fuel (cs ++ rest) = some (members, rest)
  | [], _, _, _, h, _, _ => absurd rfl h
  | [(key, j)], _, rest, fuel, _, h, hfuel => by
    rw [MembersText] at h
    obtain ⟨head, body, after, hhead, hj, hafter, rfl⟩ := h
    simp only [List.length_append, List.length_singleton] at hfuel
    obtain ⟨fuel, rfl⟩ := Nat.exists_eq_add_one_of_ne_zero (n := fuel) (by omega)
    have hread := readValue_text j hj (by omega : body.length ≤ fuel) (.append hafter (stops_brace rest))
    simpa using readMembers_close hhead hj hafter hread
  | (key, j) :: m :: ms, _, rest, fuel, _, h, hfuel => by
    rw [MembersText] at h
    obtain ⟨head, body, after, tail, hhead, hj, hafter, htail, rfl⟩ := h
    simp only [List.length_append, List.length_cons] at hfuel
    obtain ⟨fuel, rfl⟩ := Nat.exists_eq_add_one_of_ne_zero (n := fuel) (by omega)
    have hread := readValue_text j hj (by omega : body.length ≤ fuel) (.append hafter (stops_comma (tail ++ rest)))
    have hmembers : readMembers fuel (tail ++ rest) = some (m :: ms, rest) :=
      readMembers_text (m :: ms) (by simp) htail (by omega)
    simpa using readMembers_comma hhead hj hafter hread hmembers

end

/-- **Every text of a value, with gaps around it, is the text of that value.** -/
theorem ofText?_eq_some {j : Json} {text : String} {before body after : List Char} (hbefore : IsGap before)
    (hj : IsText j body) (hafter : IsGap after) (htext : text.toList = before ++ (body ++ after)) :
    ofText? text = some j := by
  have hstops : Stops after := by
    have hnil : Stops [] := by
      rintro _ _ ⟨⟩
    simpa using hnil.append hafter
  have hread : readValue (2 * (before ++ (body ++ after)).length + 2) (body ++ after) = some (j, after) := by
    refine readValue_text j hj ?_ hstops
    simp only [List.length_append]
    omega
  have hend : skipGap after = [] := by
    have hskip : skipGap (after ++ []) = skipGap [] := skipGap_append hafter
    rwa [List.append_nil] at hskip
  rw [ofText?, htext]
  simp only [skipGap_value hbefore hj, hread, Option.bind_eq_bind, Option.bind_some, hend]
  rfl

end Json
end Crossroads
