import Crossroads.Text
/-!
# JSON values

A JSON text as a value: numbers as they are written, members in their order and with repetitions, and strings that may
hold an escaped half of a surrogate pair.  What a number or a string means is asked for where it is used.
-/
namespace Crossroads

structure Numeral where
  negative : Bool := false
  whole : List Char
  fraction : List Char := []
  /-- The exponent: whether it is negative, and its digits. -/
  exponent : Option (Bool × List Char) := none
deriving DecidableEq

/-- One unit of a string's text: a character, or an escaped half of a surrogate pair. -/
inductive TextUnit where
  | scalar (c : Char)
  | half (code : Nat)
deriving DecidableEq

inductive Json where
  | null
  | bool (b : Bool)
  | number (n : Numeral)
  | string (units : List TextUnit)
  | array (items : List Json)
  | object (members : List (List TextUnit × Json))

namespace Text

def digitsValue (ds : List Char) : Nat := ds.foldl (fun n d => 10 * n + (d.toNat - 48)) 0

end Text

namespace Numeral

open Text (digitsValue)

def isInteger (n : Numeral) : Bool := n.fraction.isEmpty && n.exponent.isNone

/-- The integer a numeral writes.  Minus zero is no integer, nor is anything with a point or an exponent. -/
def integer? (n : Numeral) : Option Int :=
  if n.isInteger then
    let value := digitsValue n.whole
    if n.negative then (if value = 0 then none else some (-(value : Int))) else some value
  else none

/-- The leading digits that make up a number of 64 bits after `acc`, and how many digits are left. -/
def leading : Nat → List Char → Nat × Nat
  | acc, [] => (acc, 0)
  | acc, d :: ds =>
    let next := 10 * acc + (d.toNat - 48)
    if 18446744073709551615 < next then (acc, (d :: ds).length) else leading next ds

/-- Whether a significand of 64 bits times a power of ten has the size of a double, in one multiplication of doubles.
Unless it is scaled up, it has. -/
def scales (significand : Nat) (scale : Int) : Bool :=
  significand = 0 || scale ≤ 0 ||
    (scale ≤ 308 && (Float.ofNat significand * Float.ofScientific 1 false scale.toNat).isFinite)

/-- Whether a double can hold the number's size.  The leading digits that fit 64 bits are scaled by the power of ten
that is left.  An exponent that does not fit 32 bits makes any number but zero too large, or, if it is negative, none. -/
def fitsDouble (n : Numeral) : Bool :=
  let (lead, dropped) := leading 0 n.whole
  let (significand, unread) := leading lead n.fraction
  let places : Int := (dropped : Int) - ((n.fraction.length - unread : Nat) : Int)
  match n.exponent with
  | none => scales significand places
  | some (negative, ds) =>
    let value := digitsValue ds
    if 2147483647 < value then negative || significand = 0
    else scales significand (if negative then places - value else places + value)

end Numeral

namespace TextUnit

def join (high low : Nat) : Char := Char.ofNat (0x10000 + (high - 0xD800) * 0x400 + (low - 0xDC00))

def text? : List TextUnit → Option (List Char)
  | [] => some []
  | .scalar c :: r => (text? r).map (c :: ·)
  | .half high :: .half low :: r =>
    if high < 0xDC00 ∧ 0xDC00 ≤ low then (text? r).map (join high low :: ·) else none
  | .half _ :: _ => none

theorem text?_map_scalar (cs : List Char) : text? (cs.map .scalar) = some cs := by
  induction cs with
  | nil => rfl
  | cons c cs ih => simp [text?, ih]

end TextUnit

namespace Json

mutual

def depth : Json → Nat
  | array items    => 1 + itemsDepth items
  | object members => 1 + membersDepth members
  | _              => 0

def itemsDepth : List Json → Nat
  | []      => 0
  | j :: js => max (depth j) (itemsDepth js)

def membersDepth : List (List TextUnit × Json) → Nat
  | []           => 0
  | (_, j) :: ms => max (depth j) (membersDepth ms)

end

mutual

/-- Whether every string of a value, names included, is whole text and every number has the size of a double. -/
def isWhole : Json → Bool
  | number n       => n.fitsDouble
  | string units   => (TextUnit.text? units).isSome
  | array items    => itemsWhole items
  | object members => membersWhole members
  | _              => true

def itemsWhole : List Json → Bool
  | []      => true
  | j :: js => isWhole j && itemsWhole js

def membersWhole : List (List TextUnit × Json) → Bool
  | []           => true
  | (k, j) :: ms => (TextUnit.text? k).isSome && isWhole j && membersWhole ms

end

def intIn? (r : Text.Range) : Json → Option Int
  | number n => n.integer?.filter r.contains
  | _        => none

def natIn? (r : Text.Range) (j : Json) : Option Nat := (j.intIn? r).map Int.toNat

def bool? : Json → Option Bool
  | bool b => some b
  | _      => none

def text? : Json → Option String
  | string units => (TextUnit.text? units).map String.ofList
  | _            => none

/-- A choice by name: a string, or an object whose only member has the name and an empty content. -/
def choice? {α : Type} (ofName? : String → Option α) (isEmptyContent : Json → Bool) : Json → Option α
  | string units => (TextUnit.text? units).bind (fun cs => ofName? (String.ofList cs))
  | object [(key, content)] =>
    if isEmptyContent content then (TextUnit.text? key).bind (fun cs => ofName? (String.ofList cs)) else none
  | _ => none

def isNull : Json → Bool
  | null => true
  | _    => false

end Json

end Crossroads
