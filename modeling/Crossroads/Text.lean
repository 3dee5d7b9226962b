/-!
# Text

Blank characters and texts without the blanks at their two ends, the spelling under which names are looked up, and
decimal numbers.
-/
namespace Crossroads.Text

/-! ## Blanks -/

/-- The code points with the White_Space property, as inclusive ranges. -/
def blankRanges : List (Nat × Nat) :=
  [(0x09, 0x0D), (0x20, 0x20), (0x85, 0x85), (0xA0, 0xA0), (0x1680, 0x1680), (0x2000, 0x200A),
   (0x2028, 0x2029), (0x202F, 0x202F), (0x205F, 0x205F), (0x3000, 0x3000)]

def isBlank (c : Char) : Bool := blankRanges.any (fun r => r.1 ≤ c.toNat && c.toNat ≤ r.2)

def trimStart (cs : List Char) : List Char := cs.dropWhile isBlank

def trimEnd (cs : List Char) : List Char := (cs.reverse.dropWhile isBlank).reverse

def trim (cs : List Char) : List Char := trimEnd (trimStart cs)

theorem isBlank_of_isWhitespace {c : Char} (h : c.isWhitespace = true) : isBlank c = true := by
  simp only [Char.isWhitespace, Bool.or_eq_true, decide_eq_true_eq] at h
  rcases h with ((rfl | rfl) | rfl) | rfl <;> decide

theorem trim_of_no_blank {cs : List Char} (h : ∀ c ∈ cs, isBlank c = false) : trim cs = cs := by
  have drop_eq : ∀ l : List Char, (∀ c ∈ l, isBlank c = false) → l.dropWhile isBlank = l
    | [], _ => rfl
    | c :: l, hl => by rw [List.dropWhile_cons, hl c (by simp)]; rfl
  unfold trim trimStart trimEnd
  rw [drop_eq cs h, drop_eq cs.reverse (fun c hc => h c (by simpa using hc)), List.reverse_reverse]

/-! ## Names of choices

Names are looked up without blanks at their ends, in lower case, and with hyphens written as underscores.
-/

def plainChar (c : Char) : Char := if c = '-' then '_' else c.toLower

def plainName (s : String) : String := String.ofList ((trim s.toList).map plainChar)

/-! ## Decimal numbers

Reading goes from left to right and stops at the first fault: a character that is no digit, or the digit that carries
the value out of the range.
-/

def digitChar (d : Nat) : Char := Char.ofNat (48 + d)

def digitValue? (c : Char) : Option Nat := if '0' ≤ c ∧ c ≤ '9' then some (c.toNat - 48) else none

def digits (n : Nat) : List Char :=
  if n < 10 then [digitChar n] else digits (n / 10) ++ [digitChar (n % 10)]
termination_by n

def natText (n : Nat) : String := String.ofList (digits n)

def intText : Int → String
  | .ofNat n   => natText n
  | .negSucc n => "-" ++ natText (n + 1)

structure Range where
  lo : Int
  hi : Int
deriving DecidableEq

namespace Range

def signed64 : Range := ⟨-9223372036854775808, 9223372036854775807⟩

def unsigned8 : Range := ⟨0, 255⟩

def unsigned32 : Range := ⟨0, 4294967295⟩

def unsigned64 : Range := ⟨0, 18446744073709551615⟩

def contains (r : Range) (n : Int) : Bool := r.lo ≤ n && n ≤ r.hi

end Range

inductive NumberFault where
  | empty
  | badDigit
  | tooLarge
  | tooSmall
deriving DecidableEq

def NumberFault.message : NumberFault → String
  | empty    => "cannot parse integer from empty string"
  | badDigit => "invalid digit found in string"
  | tooLarge => "number too large to fit in target type"
  | tooSmall => "number too small to fit in target type"

/-- Reads digits upwards from `acc`, refusing the first value above the range. -/
def readUp (r : Range) : Int → List Char → Except NumberFault Int
  | acc, [] => .ok acc
  | acc, c :: cs =>
    match digitValue? c with
    | none => .error .badDigit
    | some d => if r.hi < acc * 10 + d then .error .tooLarge else readUp r (acc * 10 + d) cs

/-- Reads digits downwards from `acc`, refusing the first value below the range. -/
def readDown (r : Range) : Int → List Char → Except NumberFault Int
  | acc, [] => .ok acc
  | acc, c :: cs =>
    match digitValue? c with
    | none => .error .badDigit
    | some d => if acc * 10 - d < r.lo then .error .tooSmall else readDown r (acc * 10 - d) cs

/-- Reads a number of a range: an optional plus sign, or a minus sign where the range has negative numbers, and then
at least one ASCII digit. -/
def readInt (r : Range) : List Char → Except NumberFault Int
  | [] => .error .empty
  | ['+'] => .error .badDigit
  | ['-'] => .error .badDigit
  | '+' :: cs => readUp r 0 cs
  | '-' :: cs => if r.lo < 0 then readDown r 0 cs else .error .badDigit
  | cs => readUp r 0 cs

end Crossroads.Text
