import Crossroads.Proofs.Config.Normal
import Crossroads.Proofs.Config.Settings
import Crossroads.Proofs.Text.Numerals
import Mathlib.Data.List.DropRight
/-!
# Configurations from lookups

What a lookup of variables comes to, whatever it answers (`Config.reads_lookup`).  Which texts are values of a setting is
said without the reader (`ValueKind.IsText`): numerals of a range, the two truth values, and the spellings of a name.  A
configuration is read exactly if every variable that is there says a value of its setting; then these values stand in
place of the defaults, and the rest is normalizing.  Otherwise the first variable that says none is refused.

The variables are read one after another into one configuration.  Since each sets its own setting, the order decides
nothing but which variable is refused.
-/
namespace Crossroads

/-! ## Names -/

theorem Text.trim_trim (cs : List Char) : trim (trim cs) = trim cs := by
  have hstart : trimStart (trim cs) = trim cs := by
    refine List.dropWhile_eq_self_iff.2 fun hpos => ?_
    have hkept : trim cs <+: trimStart cs := List.rdropWhile_prefix isBlank (trimStart cs)
    have hlength := Nat.lt_of_lt_of_le hpos hkept.length_le
    rw [hkept.getElem hpos]
    exact List.dropWhile_get_zero_not isBlank cs hlength
  have hend : trimEnd (trim cs) = trim cs := List.rdropWhile_idempotent isBlank (trimStart cs)
  rw [trim, hstart, hend]

/-- A text without blanks at its ends is looked up as it is, in plain characters. -/
theorem Text.plainName_mem_iff {cs : List Char} (h : trim cs = cs) (names : List String) :
    plainName (String.ofList cs) ∈ names ↔ ∃ name ∈ names, cs.map plainChar = name.toList := by
  rw [plainName, String.toList_ofList, h]
  constructor
  · exact fun hmem => ⟨_, hmem, String.toList_ofList.symm⟩
  · rintro ⟨name, hmem, hname⟩
    rwa [hname, String.ofList_toList]

namespace Policy

def spellings : Policy → List String
  | sjf                => ["sjf"]
  | srtf               => ["srtf"]
  | agingSjf           => ["aging", "aging_sjf"]
  | weightedSjf        => ["weighted", "weighted_sjf"]
  | predictiveSjf      => ["predictive", "predictive_sjf"]
  | multilevelFeedback => ["mlfq", "multilevel", "multilevel_feedback"]
  | priorityRoundRobin => ["priority_rr", "priority_round_robin"]

theorem ofText_eq_ok_iff {text : String} {p : Policy} : ofText text = .ok p ↔ Text.plainName text ∈ p.spellings := by
  unfold ofText
  split <;> cases p <;> simp_all [spellings]

end Policy

namespace VictimStrategy

def spellings : VictimStrategy → List String
  | smallestAllocation => ["smallest_allocation", "smallest"]
  | longestWait        => ["longest_wait", "longest"]

theorem ofText_eq_ok_iff {text : String} {v : VictimStrategy} :
    ofText text = .ok v ↔ Text.plainName text ∈ v.spellings := by
  unfold ofText
  split <;> cases v <;> simp_all [spellings]

end VictimStrategy

namespace Config

open Text (IsNumeral Range)

/-! ## What a text says -/

variable {cs : List Char}

theorem readNumber_eq_ok_iff {r : Range} (hlo : r.lo ≤ 0) (hhi : 0 ≤ r.hi) {n : Int} :
    readNumber r cs = .ok n ↔ IsNumeral r cs n := by
  rw [← Text.readInt_eq_ok_iff hlo hhi, readNumber]
  cases Text.readInt r cs <;> simp [Except.mapError]

theorem readNat_eq_ok_iff {r : Range} (hlo : r.lo = 0) (hhi : 0 ≤ r.hi) {n : Nat} :
    readNat r cs = .ok n ↔ IsNumeral r cs n := by
  have hread : ∀ i, readNumber r cs = .ok i ↔ IsNumeral r cs i := fun i => readNumber_eq_ok_iff (by omega) hhi
  rw [readNat, ← hread]
  cases hnumber : readNumber r cs with
  | error _ => simp [Except.map]
  | ok i =>
    have hnonneg : 0 ≤ i := by
      cases (hread i).1 hnumber with
      | plain | plus => exact Int.natCast_nonneg _
      | minus _ hneg => omega
    simp only [Except.map, Except.ok.injEq]
    omega

theorem readChoice_eq_ok_iff {α : Type} {ofText : String → Except SetupFault α} {a : α} :
    readChoice ofText cs = .ok a ↔ ofText (String.ofList cs) = .ok a := by
  rw [readChoice]
  cases ofText (String.ofList cs) <;> simp [Except.mapError]

theorem readBool_eq_ok_iff {b : Bool} : readBool cs = .ok b ↔ cs = (ValueKind.flag.text b).toList := by
  rw [readBool]
  split
  · rename_i htrue
    subst htrue
    cases b <;> decide
  · split
    · rename_i hfalse
      subst hfalse
      cases b <;> decide
    · rename_i htrue hfalse
      cases b with
      | true => exact iff_of_false nofun htrue
      | false => exact iff_of_false nofun hfalse

namespace ValueKind

/-- Whether a text says a value of a kind. -/
def IsText : (k : ValueKind) → List Char → k.Content → Prop
  | integer, cs, n   => IsNumeral .signed64 cs n
  | natural64, cs, n => IsNumeral .unsigned64 cs (Int.ofNat n)
  | natural32, cs, n => IsNumeral .unsigned32 cs (Int.ofNat n)
  | flag, cs, b      => cs = (flag.text b).toList
  | policy, cs, p    => ∃ name ∈ Policy.spellings p, cs.map Text.plainChar = name.toList
  | strategy, cs, v  => ∃ name ∈ VictimStrategy.spellings v, cs.map Text.plainChar = name.toList

/-- **A text without blanks at its ends is read as a value exactly if it says it.** -/
theorem ofText_eq_ok_iff (h : Text.trim cs = cs) : ∀ (k : ValueKind) (v : k.Content), k.ofText cs = .ok v ↔ k.IsText cs v
  | integer, _   => readNumber_eq_ok_iff (by decide) (by decide)
  | natural64, _ => readNat_eq_ok_iff rfl (by decide)
  | natural32, _ => readNat_eq_ok_iff rfl (by decide)
  | flag, _      => readBool_eq_ok_iff
  | policy, p    => readChoice_eq_ok_iff.trans (Policy.ofText_eq_ok_iff.trans (Text.plainName_mem_iff h _))
  | strategy, v  => readChoice_eq_ok_iff.trans (VictimStrategy.ofText_eq_ok_iff.trans (Text.plainName_mem_iff h _))

end ValueKind

/-! ## What a variable says -/

namespace Setting

theorem mem_all (s : Setting) : s ∈ all := by
  cases s <;> decide

def variableName (s : Setting) : String := variableStem ++ s.label

/-- Whether a text says a value of the setting, with blanks around it. -/
def IsText (s : Setting) (raw : String) (v : s.kind.Content) : Prop := s.kind.IsText (Text.trim raw.toList) v

/-- Whether the setting's variable says a value, if it is there. -/
def Legible (lookup : String → Option String) (s : Setting) : Prop :=
  ∀ raw, lookup s.variableName = some raw → ∃ v, s.IsText raw v

/-- Whether a value is what the setting's variable says; there is none if there is no variable. -/
def IsRead (lookup : String → Option String) (s : Setting) (o : Option s.kind.Content) : Prop :=
  match lookup s.variableName with
  | none     => o = none
  | some raw => ∃ v, s.IsText raw v ∧ o = some v

/-- The configuration with a value in place of what it has of the setting; without a value it keeps what it has. -/
def put (s : Setting) (o : Option s.kind.Content) (c : Config) : Config := o.elim c (s.assign · c)

variable {lookup : String → Option String} {s : Setting} {raw : String} {v : s.kind.Content} {o : Option s.kind.Content}

theorem legible_iff : s.Legible lookup ↔ ∃ o, s.IsRead lookup o := by
  unfold Legible IsRead
  cases lookup s.variableName with
  | none => simp
  | some raw => simp [and_comm]

theorem ofText_trim_eq_ok_iff : s.kind.ofText (Text.trim raw.toList) = .ok v ↔ s.IsText raw v :=
  s.kind.ofText_eq_ok_iff (Text.trim_trim _) v

theorem IsRead.setVariable_eq (h : s.IsRead lookup o) (c : Config) :
    setVariable lookup c s.asVariable = .ok (s.put o c) := by
  have hname : s.asVariable.fullName = s.variableName := rfl
  unfold IsRead at h
  rw [setVariable, hname]
  cases hraw : lookup s.variableName with
  | none =>
    rw [hraw] at h
    rw [h]
    rfl
  | some raw =>
    rw [hraw] at h
    obtain ⟨v, htext, rfl⟩ := h
    simp only [asVariable, ofText_trim_eq_ok_iff.2 htext, Except.map, put, Option.elim_some]

/-- A text that is not read is refused, with its variable and as it was given. -/
theorem setVariable_eq_error {reason : String} (hraw : lookup s.variableName = some raw)
    (hread : s.kind.ofText (Text.trim raw.toList) = .error reason) (c : Config) :
    setVariable lookup c s.asVariable = .error (.initializationFailure (.badVariable s.variableName raw reason)) := by
  have hname : s.asVariable.fullName = s.variableName := rfl
  rw [setVariable, hname, hraw]
  simp only [asVariable, hread, Except.map]

end Setting

/-! ## Readings -/

def Reading := (s : Setting) → Option s.kind.Content

/-- The default configuration with the values of a reading in place of its own. -/
def Reading.config (g : Reading) : Config :=
  let d : Config := {}
  { d with
    durationSecs := (g .durationSecs).getD d.durationSecs
    minArrivalSecs := (g .minArrivalSecs).getD d.minArrivalSecs
    maxArrivalSecs := (g .maxArrivalSecs).getD d.maxArrivalSecs
    timeQuantum := (g .timeQuantum).getD d.timeQuantum
    initialPolicy := (g .initialPolicy).getD d.initialPolicy
    debug := (g .debug).getD d.debug
    crossTimeMs := (g .crossTimeMs).getD d.crossTimeMs
    contextSwitchMs := (g .contextSwitchMs).getD d.contextSwitchMs
    tickIntervalMs := (g .tickIntervalMs).getD d.tickIntervalMs
    queueCapacity := (g .queueCapacity).getD d.queueCapacity
    batchSize := (g .batchSize).getD d.batchSize
    emergencyProbability := (g .emergencyProbability).getD d.emergencyProbability
    victimStrategy := (g .victimStrategy).getD d.victimStrategy
    strictInvariants := (g .strictInvariants).getD d.strictInvariants
    seed := (g .seed).or d.seed }

/-- Whether a reading has what the variables of a lookup say, and nothing else. -/
def Reading.IsOf (g : Reading) (lookup : String → Option String) : Prop := ∀ s : Setting, s.IsRead lookup (g s)

variable {lookup : String → Option String} {g : Reading} {s : Setting} {before after : List Setting} {raw : String}

theorem exists_reading (order : List Setting) (h : ∀ s ∈ order, s.Legible lookup) :
    ∃ g : Reading, ∀ s, s ∈ order → s.IsRead lookup (g s) := by
  have hvalue : ∀ s : Setting, ∃ o, s ∈ order → s.IsRead lookup o := by
    intro s
    by_cases hs : s ∈ order
    · obtain ⟨o, ho⟩ := Setting.legible_iff.1 (h s hs)
      exact ⟨o, fun _ => ho⟩
    · exact ⟨none, fun hmem => absurd hmem hs⟩
  obtain ⟨g, hg⟩ := Classical.skolem.1 hvalue
  exact ⟨g, hg⟩

/-- The values of some of the settings only. -/
def Reading.only (g : Reading) (order : List Setting) : Reading := fun s => if s ∈ order then g s else none

theorem Reading.config_update (g : Reading) (s : Setting) (v : s.kind.Content) :
    Reading.config (Function.update g s (some v)) = s.assign v g.config := by
  cases s <;> rfl

theorem Reading.put_only (g : Reading) (done : List Setting) (s : Setting) :
    s.put (g s) (g.only done).config = (g.only (done ++ [s])).config := by
  cases hs : g s with
  | none =>
    have honly : g.only (done ++ [s]) = g.only done := funext fun t => by
      by_cases ht : t = s
      · subst ht
        simp [only, hs]
      · simp [only, ht]
    rw [honly]
    rfl
  | some v =>
    have hself : g.only (done ++ [s]) s = some v := by simp [only, hs]
    have hother : ∀ t, t ≠ s → g.only (done ++ [s]) t = g.only done t := fun t ht => by simp [only, ht]
    have honly : g.only (done ++ [s]) = Function.update (g.only done) s (some v) :=
      Function.eq_update_iff.2 ⟨hself, hother⟩
    rw [honly, config_update]
    rfl

/-- Values that are put in one after another make the configuration of the reading. -/
theorem Reading.foldl_put (g : Reading) : ∀ ss done : List Setting,
    ss.foldl (fun c s => s.put (g s) c) (g.only done).config = (g.only (done ++ ss)).config
  | [], done => by rw [List.append_nil, List.foldl_nil]
  | s :: ss, done => by rw [List.foldl_cons, put_only, foldl_put g ss, List.append_assoc, List.singleton_append]

theorem Reading.IsOf.ofVariables_eq (h : g.IsOf lookup) : ofVariables lookup = .ok g.config.normalized := by
  have hall : g.only Setting.all = g := funext fun s => if_pos s.mem_all
  have hputs : Setting.all.foldl (fun c s => s.put (g s) c) {} = (g.only Setting.all).config :=
    g.foldl_put Setting.all []
  rw [hall] at hputs
  rw [Setting.ofVariables_eq_map, Setting.foldlM_setVariable _ _ fun s _ => (h s).setVariable_eq, hputs]
  rfl

/-- The first variable in the order of the settings that is there and says no value, with its text and what is wrong
with it. -/
structure FirstIllegible (lookup : String → Option String) (s : Setting) (raw reason : String) : Prop where
  first : ∃ before after, Setting.all = before ++ s :: after ∧ ∀ t ∈ before, t.Legible lookup
  given : lookup s.variableName = some raw
  no_text : ∀ v, ¬ s.IsText raw v
  read : s.kind.ofText (Text.trim raw.toList) = .error reason

/-- The first variable that says no value is refused, whatever the variables behind it hold. -/
theorem FirstIllegible.ofVariables_eq {reason : String} (h : FirstIllegible lookup s raw reason) :
    ofVariables lookup = .error (.initializationFailure (.badVariable s.variableName raw reason)) := by
  obtain ⟨before, after, hall, hbefore⟩ := h.first
  -- the whole lookup has no reading, but what stands before the variable has one
  obtain ⟨g, hg⟩ := exists_reading before hbefore
  rw [Setting.ofVariables_eq_map, hall, List.foldlM_append,
    Setting.foldlM_setVariable before _ fun t ht => (hg t ht).setVariable_eq]
  show ((s :: after).foldlM (fun c s => setVariable lookup c s.asVariable) _).map normalized = _
  rw [List.foldlM_cons, Setting.setVariable_eq_error h.given h.read]
  rfl

/-- Three texts say no value of their settings; the one that is read first is reported. -/
example : ofVariables (fun name =>
    if name = "TRAFFICGURU_SEED" then some "-1"
    else if name = "TRAFFICGURU_DEBUG" then some "True"
    else if name = "TRAFFICGURU_DURATION_SECS" then some " +60\t"
    else if name = "TRAFFICGURU_BATCH_SIZE" then some "4294967296"
    else none) = .error (.initializationFailure (.badVariable "TRAFFICGURU_DEBUG" "True"
      "provided string was not `true` or `false`")) := by
  rfl

end Config
end Crossroads
