import Crossroads.Json
/-!
# Reading JSON

The strict grammar: one value with blanks around it, no leading zeros, no trailing commas, no bare control characters
in strings.  Each reader answers what it read and the rest of the text.
-/
namespace Crossroads.Json

def isGap (c : Char) : Bool := c = ' ' || c = '\n' || c = '\t' || c = '\r'

def skipGap (cs : List Char) : List Char := cs.dropWhile isGap

/-! ## Numbers -/

def isDigit (c : Char) : Bool := (Text.digitValue? c).isSome

def readDigits (cs : List Char) : Option (List Char × List Char) :=
  match cs.span isDigit with
  | ([], _)    => none
  | (ds, rest) => some (ds, rest)

/-- The digits before the point: a lone zero, or digits that do not start with one. -/
def readWhole : List Char → Option (List Char × List Char)
  | '0' :: rest => some (['0'], rest)
  | cs          => readDigits cs

def readFraction : List Char → Option (List Char × List Char)
  | '.' :: rest => readDigits rest
  | cs          => some ([], cs)

def readExponentDigits : List Char → Option ((Bool × List Char) × List Char)
  | '+' :: rest => (readDigits rest).map (fun p => ((false, p.1), p.2))
  | '-' :: rest => (readDigits rest).map (fun p => ((true, p.1), p.2))
  | rest        => (readDigits rest).map (fun p => ((false, p.1), p.2))

def readExponent : List Char → Option (Option (Bool × List Char) × List Char)
  | 'e' :: rest => (readExponentDigits rest).map (fun p => (some p.1, p.2))
  | 'E' :: rest => (readExponentDigits rest).map (fun p => (some p.1, p.2))
  | cs          => some (none, cs)

def readUnsigned (negative : Bool) (cs : List Char) : Option (Numeral × List Char) := do
  let (whole, cs) ← readWhole cs
  let (fraction, cs) ← readFraction cs
  let (exponent, cs) ← readExponent cs
  return ({ negative, whole, fraction, exponent }, cs)

def readNumber : List Char → Option (Numeral × List Char)
  | '-' :: cs => readUnsigned true cs
  | cs        => readUnsigned false cs

/-! ## Strings -/

def hexValue? (c : Char) : Option Nat :=
  if '0' ≤ c ∧ c ≤ '9' then some (c.toNat - 48)
  else if 'a' ≤ c ∧ c ≤ 'f' then some (c.toNat - 87)
  else if 'A' ≤ c ∧ c ≤ 'F' then some (c.toNat - 55)
  else none

def hexUnit? (a b c d : Char) : Option TextUnit := do
  let code := (((← hexValue? a) * 16 + (← hexValue? b)) * 16 + (← hexValue? c)) * 16 + (← hexValue? d)
  return if 0xD800 ≤ code ∧ code ≤ 0xDFFF then .half code else .scalar (Char.ofNat code)

def escaped? : Char → Option Char
  | '"'  => some '"'
  | '\\' => some '\\'
  | '/'  => some '/'
  | 'b'  => some '\x08'
  | 'f'  => some '\x0c'
  | 'n'  => some '\n'
  | 'r'  => some '\r'
  | 't'  => some '\t'
  | _    => none

/-- The units of a string, up to and with its closing quote. -/
def readUnits : List Char → Option (List TextUnit × List Char)
  | [] => none
  | '"' :: rest => some ([], rest)
  | '\\' :: 'u' :: a :: b :: c :: d :: rest => do
    let unit ← hexUnit? a b c d
    let (units, rest) ← readUnits rest
    return (unit :: units, rest)
  | '\\' :: e :: rest => do
    let c ← escaped? e
    let (units, rest) ← readUnits rest
    return (.scalar c :: units, rest)
  | c :: rest =>
    if c.toNat < 0x20 ∨ c = '\\' then none
    else do
      let (units, rest) ← readUnits rest
      return (.scalar c :: units, rest)

/-! ## Values -/

mutual

def readValue : Nat → List Char → Option (Json × List Char)
  | 0, _ => none
  | _ + 1, 'n' :: 'u' :: 'l' :: 'l' :: rest => some (null, rest)
  | _ + 1, 't' :: 'r' :: 'u' :: 'e' :: rest => some (bool true, rest)
  | _ + 1, 'f' :: 'a' :: 'l' :: 's' :: 'e' :: rest => some (bool false, rest)
  | _ + 1, '"' :: rest => (readUnits rest).map (fun p => (string p.1, p.2))
  | fuel + 1, '[' :: rest =>
    match skipGap rest with
    | ']' :: rest => some (array [], rest)
    | rest => (readItems fuel rest).map (fun p => (array p.1, p.2))
  | fuel + 1, '\x7b' :: rest =>
    match skipGap rest with
    | '\x7d' :: rest => some (object [], rest)
    | rest => (readMembers fuel rest).map (fun p => (object p.1, p.2))
  | _ + 1, cs => (readNumber cs).map (fun p => (number p.1, p.2))

def readItems : Nat → List Char → Option (List Json × List Char)
  | 0, _ => none
  | fuel + 1, cs => do
    let (item, rest) ← readValue fuel (skipGap cs)
    match skipGap rest with
    | ']' :: rest => return ([item], rest)
    | ',' :: rest =>
      let (items, rest) ← readItems fuel rest
      return (item :: items, rest)
    | _ => none

def readMembers : Nat → List Char → Option (List (List TextUnit × Json) × List Char)
  | 0, _ => none
  | fuel + 1, cs => do
    let '"' :: rest := skipGap cs | none
    let (key, rest) ← readUnits rest
    let ':' :: rest := skipGap rest | none
    let (value, rest) ← readValue fuel (skipGap rest)
    match skipGap rest with
    | '\x7d' :: rest => return ([(key, value)], rest)
    | ',' :: rest =>
      let (members, rest) ← readMembers fuel rest
      return ((key, value) :: members, rest)
    | _ => none

end

/-- The value of a whole text.  No value nests deeper than twice its text is long. -/
def ofText? (text : String) : Option Json := do
  let cs := text.toList
  let (value, rest) ← readValue (2 * cs.length + 2) (skipGap cs)
  if (skipGap rest).isEmpty then some value else none

end Crossroads.Json
