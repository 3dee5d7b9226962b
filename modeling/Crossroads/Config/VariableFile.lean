import Crossroads.Config.Variables
import Crossroads.Text.Alphanumeric
/-!
# Files of variables

A file gives variables line by line as `NAME=value`.  Blank lines and lines that begin with `#` are skipped, quotes
keep blanks and line breaks, a `#` after a blank starts a comment, and `$NAME` stands for a value given before.  A
variable that is set already keeps its value.
-/
namespace Crossroads.Config.VariableFile

/-- Variables and their values.  Its text has an entry `NAME=value` for each. -/
abbrev Environment := List (List Char × List Char)

def entryValue? (name : List Char) (entry : List Char × List Char) : Option (List Char) :=
  (name ++ ['=']).isPrefixOf? (entry.1 ++ '=' :: entry.2)

/-- The value of a variable, from the first entry that has one.  A name that holds an equals sign itself reaches into
the value of another variable. -/
def Environment.value? (env : Environment) (name : List Char) : Option (List Char) := env.findSome? (entryValue? name)

theorem entryValue?_nil_nil (value : List Char) : entryValue? [] ([], value) = some value := rfl

theorem entryValue?_nil_cons (d : Char) (ds value : List Char) :
    entryValue? [] (d :: ds, value) = if '=' == d then some (ds ++ '=' :: value) else none := rfl

theorem entryValue?_cons_nil (c : Char) (cs value : List Char) :
    entryValue? (c :: cs) ([], value) = if c == '=' then (cs ++ ['=']).isPrefixOf? value else none := rfl

theorem entryValue?_cons_cons (c d : Char) (cs ds value : List Char) :
    entryValue? (c :: cs) (d :: ds, value) = if c == d then entryValue? cs (ds, value) else none := rfl

/-- **A plain name has the value of the variable of that name.** -/
theorem entryValue?_of_plain : ∀ (name other value : List Char), '=' ∉ name → '=' ∉ other →
    entryValue? name (other, value) = if name = other then some value else none
  | [], [], value, _, _ => by rw [entryValue?_nil_nil, if_pos rfl]
  | [], d :: ds, value, _, k => by
    have hd : ¬ ('=' == d) = true := fun e => k ((beq_iff_eq.1 e) ▸ List.mem_cons_self)
    rw [entryValue?_nil_cons, if_neg hd, if_neg nofun]
  | c :: cs, [], value, h, _ => by
    have hc : ¬ (c == '=') = true := fun e => h ((beq_iff_eq.1 e) ▸ List.mem_cons_self)
    rw [entryValue?_cons_nil, if_neg hc, if_neg nofun]
  | c :: cs, d :: ds, value, h, k => by
    have step := entryValue?_of_plain cs ds value (fun m => h (List.mem_cons_of_mem _ m))
      (fun m => k (List.mem_cons_of_mem _ m))
    rw [entryValue?_cons_cons]
    by_cases e : c = d
    · rw [if_pos (beq_iff_eq.2 e), step]
      simp only [e, List.cons.injEq, true_and]
    · rw [if_neg fun b => e (beq_iff_eq.1 b), if_neg fun m => e (List.cons.inj m).1]

/-! ## Lines -/

inductive LineState where
  | plain
  | blank
  | escape
  | single
  | singleEscape
  | double
  | doubleEscape
deriving DecidableEq

def LineState.outside (c : Char) : LineState :=
  if c = '\\' then .escape else if c = '"' then .double else if c = '\'' then .single else .plain

def LineState.next (s : LineState) (c : Char) : LineState :=
  match s with
  | plain        => if Text.isBlank c && c != '\n' && c != '\r' then .blank else outside c
  | blank        => outside c
  | escape       => plain
  | single       => if c = '\\' then .singleEscape else if c = '\'' then .plain else .single
  | singleEscape => .single
  | double       => if c = '\\' then .doubleEscape else if c = '"' then .plain else .double
  | doubleEscape => .double

def breakLine : List Char → List Char × List Char
  | []          => ([], [])
  | '\n' :: cs  => (['\n'], cs)
  | c :: cs     => let (line, rest) := breakLine cs; (c :: line, rest)

theorem length_breakLine : ∀ cs : List Char, cs ≠ [] → (breakLine cs).2.length < cs.length
  | [], h => absurd rfl h
  | c :: cs, _ => by
    by_cases hc : c = '\n'
    · subst hc; simp [breakLine]
    · have ih : (breakLine cs).2.length ≤ cs.length := by
        cases cs with
        | nil => simp [breakLine]
        | cons d ds => exact Nat.le_of_lt (length_breakLine (d :: ds) (by simp))
      simp only [breakLine, List.length_cons]
      omega

/-- The part of a physical line before a comment, whether there is one, and where the reader then stands. -/
def scanLine : LineState → List Char → List Char × Bool × LineState
  | s, [] => ([], false, s)
  | s, c :: cs =>
    if s = .blank ∧ c = '#' then ([], true, s)
    else
      let (before, comment, s') := scanLine (s.next c) cs
      (c :: before, comment, s')

def dropBreak (line : List Char) : List Char :=
  match line.reverse with
  | '\n' :: '\r' :: rest => rest.reverse
  | '\n' :: rest => rest.reverse
  | _ => line

/-- The logical lines of a text, given the physical lines of one that is still open, newest first, and where its reader
stands; nothing if the text ends inside a line.  Physical lines are joined while a quote, an escape or a blank is open at
their end. -/
def logicalLines (part : List (List Char)) (s : LineState) (cs : List Char) : Option (List (List Char)) :=
  if h : cs = [] then (if s = .plain then some [] else none)
  else
    have : (breakLine cs).2.length < cs.length := length_breakLine cs h
    let line := (breakLine cs).1
    let rest := (breakLine cs).2
    let close := fun last => (logicalLines [] .plain rest).map ((last :: part).reverse.flatten :: ·)
    if part = [] ∧ (Text.trimStart line).head? = some '#' then close []
    else
      match scanLine s line with
      | (before, true, _)  => close before
      | (_, false, .plain) => close (dropBreak line)
      | (_, false, s')     => logicalLines (line :: part) s' rest
termination_by cs.length

/-! ## Values -/

/-- Where the reader of a value stands.  Names are kept with the newest character first. -/
inductive ValueMode where
  | text
  | escaped
  | single
  | bareName (name : List Char)
  | bracedName (name : List Char)
  | ended
deriving DecidableEq

structure ValueState where
  mode : ValueMode := .text
  double : Bool := false
deriving DecidableEq

namespace ValueState

def readText (s : ValueState) (c : Char) : List Char × ValueState :=
  if c = '$' then ([], { s with mode := .bareName [] })
  else if s.double then
    if c = '"' then ([], { s with double := false })
    else if c = '\\' then ([], { s with mode := .escaped })
    else ([c], s)
  else if c = '\'' then ([], { s with mode := .single })
  else if c = '"' then ([], { s with double := true })
  else if c = '\\' then ([], { s with mode := .escaped })
  else if c = ' ' ∨ c = '\t' then ([], { s with mode := .ended })
  else ([c], s)

/-- What a character adds to the value, and how it moves the reader on; nothing if it may not stand there. -/
def next (known : List Char → List Char) (s : ValueState) (c : Char) : Option (List Char × ValueState) :=
  let text := { s with mode := .text }
  match s.mode with
  | .ended => if c = ' ' ∨ c = '\t' then some ([], s) else none
  | .escaped =>
    if c = '\\' ∨ c = '\'' ∨ c = '"' ∨ c = '$' ∨ c = ' ' then some ([c], text)
    else if c = 'n' then some (['\n'], text)
    else none
  | .single => some (if c = '\'' then ([], text) else ([c], s))
  | .bareName name =>
    if Text.isAlphanumeric c then some ([], { s with mode := .bareName (c :: name) })
    else if c = '\x7b' ∧ name = [] then some ([], { s with mode := .bracedName [] })
    else if c = '$' then some (known name.reverse, { s with mode := .bareName [] })
    else some (known name.reverse ++ [c], text)
  | .bracedName name =>
    if c = '\x7d' then some (known name.reverse, text)
    else some ([], { s with mode := .bracedName (c :: name) })
  | .text => some (s.readText c)

def finish (known : List Char → List Char) (s : ValueState) : Option (List Char) :=
  match s.mode with
  | .single | .bracedName _ => none
  | .bareName name => if s.double then none else some (known name.reverse)
  | _ => if s.double then none else some []

end ValueState

/-- Reads a value; a `#` after the blank that ends it starts a comment. -/
def readValue (known : List Char → List Char) : ValueState → List Char → Option (List Char)
  | s, [] => s.finish known
  | s, c :: cs =>
    if s.mode = .ended ∧ c = '#' then s.finish known
    else do
      let (added, s) ← s.next known c
      return added ++ (← readValue known s cs)

/-! ## Assignments -/

/-- A name at the front of a text, and the rest.  Names that are assigned are in ASCII. -/
def readName (cs : List Char) : Option (List Char × List Char) :=
  match cs with
  | [] => none
  | c :: _ =>
    if c.isAlpha || c = '_' then some (cs.span (fun c => c.isAlphanum || c = '_' || c = '.')) else none

/-- The name that a line assigns to, and the text after the equals sign.  The word `export` may stand before it. -/
def readTarget (cs : List Char) : Option (List Char × List Char) := do
  let (name, rest) ← readName cs
  match Text.trimStart rest with
  | '=' :: rest => return (name, Text.trimStart rest)
  | rest =>
    if name = "export".toList then
      let (name, rest) ← readName rest
      match Text.trimStart rest with
      | '=' :: rest => return (name, Text.trimStart rest)
      | _ => none
    else none

/-- What a logical line says: nothing, or an assignment.  The outer option is none for a malformed line. -/
def readLine (known : List Char → List Char) (line : List Char) : Option (Option (List Char × List Char)) :=
  let cs := Text.trimStart (Text.trimEnd line)
  if cs = [] ∨ cs.head? = some '#' then some none
  else do
    let (name, rest) ← readTarget cs
    if rest = [] ∨ rest.head? = some '#' then return some (name, [])
    else return some (name, ← readValue known {} rest)

/-- The environment after some logical lines.  A variable that has a value keeps it. -/
def loadLines : List (List Char) → Environment → Option Environment
  | [], env => some env
  | line :: lines, env =>
    match readLine (fun name => (env.value? name).getD []) line with
    | none => none
    | some none => loadLines lines env
    | some (some (name, value)) => loadLines lines (if (env.value? name).isSome then env else env ++ [(name, value)])

/-- The environment after a file's text, a byte order mark at its front dropped. -/
def load (text : String) (env : Environment) : Option Environment :=
  let cs := text.toList
  let cs := if cs.head? = some '\uFEFF' then cs.drop 1 else cs
  (logicalLines [] .plain cs).bind (fun lines => loadLines lines env)

end VariableFile

open VariableFile in
def ofEnvironment (vars : List (String × String)) (file : Option String) : Except TrafficError Config :=
  let env : Environment := vars.map (fun p => (p.1.toList, p.2.toList))
  match file.elim (some env) (fun text => load text env) with
  | none => .error (.initializationFailure .badVariableFile)
  | some env => ofVariables (fun name => (env.value? name.toList).map String.ofList)

end Crossroads.Config
