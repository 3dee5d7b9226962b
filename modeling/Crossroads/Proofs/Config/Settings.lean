import Crossroads.Config.Document
import Crossroads.Config.Variables
import Crossroads.Proofs.Json.Texts
import Crossroads.Proofs.Text.Numerals
/-!
# Settings

The settings that both a document and the variables can give, each with the kind of its values.  A value of a kind has
a JSON form and a text, and both are read back as what the value stands for (`ofJson?_json`, `ofText_text`).  The table
of the variables is the list of the settings read by their kinds (`settingVariables_eq`), and so are the rows of the
table of the fields that belong to them (`find?_field`).
-/
namespace Crossroads.Config

open Text (Range)

/-! ## Numbers -/

theorem toInt_bounds (n : Int64) : Range.signed64.lo ≤ n.toInt ∧ n.toInt ≤ Range.signed64.hi :=
  ⟨n.le_toInt, Int.le_of_lt_add_one n.toInt_lt⟩

theorem toNat_bounds64 (n : UInt64) : Range.unsigned64.lo ≤ n.toNat ∧ n.toNat ≤ Range.unsigned64.hi := by
  have hlt := n.toNat_lt
  simp only [Range.unsigned64]
  omega

theorem toNat_bounds32 (n : UInt32) : Range.unsigned32.lo ≤ n.toNat ∧ n.toNat ≤ Range.unsigned32.hi := by
  have hlt := n.toNat_lt
  simp only [Range.unsigned32]
  omega

theorem readNumber_intText {r : Range} {i : Int} (hlo : r.lo ≤ i) (hhi : i ≤ r.hi) :
    readNumber r (Text.intText i).toList = .ok i := by
  rw [readNumber, Text.readInt_intText hlo hhi]
  rfl

theorem readNat_natText {r : Range} {n : Nat} (hlo : r.lo ≤ n) (hhi : n ≤ r.hi) :
    readNat r (Text.natText n).toList = .ok n := by
  have hread : readNumber r (Text.natText n).toList = .ok n := readNumber_intText (i := n) hlo hhi
  rw [readNat, hread]
  rfl

theorem any_isBlank_intText (i : Int) : (Text.intText i).toList.any Text.isBlank = false := by
  have hdigit : ∀ d < 10, Text.isBlank (Text.digitChar d) = false := by decide
  have hdigits : (Text.digits i.natAbs).any Text.isBlank = false := by
    rw [List.any_eq_false]
    intro c hc
    obtain ⟨d, hd, rfl⟩ := Text.exists_of_mem_digits hc
    rw [hdigit d hd]
    exact Bool.false_ne_true
  rw [Text.toList_intText]
  split
  · rw [List.any_cons, hdigits]
    decide
  · exact hdigits

/-! ## Kinds of values -/

inductive ValueKind where
  | integer
  | natural64
  | natural32
  | flag
  | policy
  | strategy

namespace ValueKind

def Value : ValueKind → Type
  | integer   => Int64
  | natural64 => UInt64
  | natural32 => UInt32
  | flag      => Bool
  | policy    => Policy
  | strategy  => VictimStrategy

/-- What the values of a kind are in a configuration, where numbers have no width. -/
def Content : ValueKind → Type
  | integer               => Int
  | natural64 | natural32 => Nat
  | flag                  => Bool
  | policy                => Policy
  | strategy              => VictimStrategy

def content : (k : ValueKind) → k.Value → k.Content
  | integer, n   => Int64.toInt n
  | natural64, n => UInt64.toNat n
  | natural32, n => UInt32.toNat n
  | flag, b      => b
  | policy, p    => p
  | strategy, v  => v

def json : (k : ValueKind) → k.Value → Json
  | integer, n   => .number (.ofInt (Int64.toInt n))
  | natural64, n => .number (.ofInt (UInt64.toNat n))
  | natural32, n => .number (.ofInt (UInt32.toNat n))
  | flag, b      => .bool b
  | policy, p    => .string ((Policy.name p).toList.map .scalar)
  | strategy, v  => .string ((VictimStrategy.name v).toList.map .scalar)

def text : (k : ValueKind) → k.Value → String
  | integer, n   => Text.intText (Int64.toInt n)
  | natural64, n => Text.natText (UInt64.toNat n)
  | natural32, n => Text.natText (UInt32.toNat n)
  | flag, true   => "true"
  | flag, false  => "false"
  | policy, p    => Policy.name p
  | strategy, v  => VictimStrategy.name v

def ofJson? : (k : ValueKind) → Json → Option k.Content
  | integer, j   => j.intIn? .signed64
  | natural64, j => j.natIn? .unsigned64
  | natural32, j => j.natIn? .unsigned32
  | flag, j      => j.bool?
  | policy, j    => j.choice? Policy.ofName? Json.isNull
  | strategy, j  => j.choice? VictimStrategy.ofName? Json.isNull

def ofText : (k : ValueKind) → List Char → Except String k.Content
  | integer, cs   => readNumber .signed64 cs
  | natural64, cs => readNat .unsigned64 cs
  | natural32, cs => readNat .unsigned32 cs
  | flag, cs      => readBool cs
  | policy, cs    => readChoice Policy.ofText cs
  | strategy, cs  => readChoice VictimStrategy.ofText cs

/-- **A value is read back from its JSON form.** -/
theorem ofJson?_json : ∀ (k : ValueKind) (v : k.Value), k.ofJson? (k.json v) = some (k.content v)
  | integer, n   => Json.intIn?_ofInt (toInt_bounds n).1 (toInt_bounds n).2
  | natural64, n => Json.natIn?_ofInt (toNat_bounds64 n).1 (toNat_bounds64 n).2
  | natural32, n => Json.natIn?_ofInt (toNat_bounds32 n).1 (toNat_bounds32 n).2
  | flag, _      => rfl
  | policy, p    => Json.choice?_string (Policy.ofName?_name p) Json.isNull
  | strategy, v  => Json.choice?_string (VictimStrategy.ofName?_name v) Json.isNull

theorem isNull_json (k : ValueKind) (v : k.Value) : (k.json v).isNull = false := by
  cases k <;> rfl

/-- **A value is read back from its text.** -/
theorem ofText_text : ∀ (k : ValueKind) (v : k.Value), k.ofText (k.text v).toList = .ok (k.content v)
  | integer, n   => readNumber_intText (toInt_bounds n).1 (toInt_bounds n).2
  | natural64, n => readNat_natText (toNat_bounds64 n).1 (toNat_bounds64 n).2
  | natural32, n => readNat_natText (toNat_bounds32 n).1 (toNat_bounds32 n).2
  | flag, true   => rfl
  | flag, false  => rfl
  | policy, p    => by cases p <;> rfl
  | strategy, v  => by cases v <;> rfl

theorem any_isBlank_text : ∀ (k : ValueKind) (v : k.Value), (k.text v).toList.any Text.isBlank = false
  | integer, n   => any_isBlank_intText (Int64.toInt n)
  | natural64, n => any_isBlank_intText (UInt64.toNat n)
  | natural32, n => any_isBlank_intText (UInt32.toNat n)
  | flag, true   => by decide
  | flag, false  => by decide
  | policy, p    => by cases p <;> decide
  | strategy, v  => by cases v <;> decide

end ValueKind

/-! ## Settings -/

inductive Setting where
  | durationSecs
  | minArrivalSecs
  | maxArrivalSecs
  | timeQuantum
  | initialPolicy
  | debug
  | crossTimeMs
  | contextSwitchMs
  | tickIntervalMs
  | queueCapacity
  | batchSize
  | emergencyProbability
  | victimStrategy
  | strictInvariants
  | seed
deriving DecidableEq

namespace Setting

def all : List Setting :=
  [durationSecs, minArrivalSecs, maxArrivalSecs, timeQuantum, initialPolicy, debug, crossTimeMs, contextSwitchMs,
   tickIntervalMs, queueCapacity, batchSize, emergencyProbability, victimStrategy, strictInvariants, seed]

theorem nodup_all : all.Nodup := by decide

def kind : Setting → ValueKind
  | durationSecs | minArrivalSecs | maxArrivalSecs | timeQuantum => .integer
  | initialPolicy => .policy
  | debug | strictInvariants => .flag
  | crossTimeMs | contextSwitchMs | tickIntervalMs | queueCapacity | seed => .natural64
  | batchSize | emergencyProbability => .natural32
  | victimStrategy => .strategy

def field : Setting → String
  | durationSecs => "duration_secs"
  | minArrivalSecs => "min_arrival_secs"
  | maxArrivalSecs => "max_arrival_secs"
  | timeQuantum => "time_quantum"
  | initialPolicy => "initial_policy"
  | debug => "debug"
  | crossTimeMs => "cross_time_ms"
  | contextSwitchMs => "context_switch_ms"
  | tickIntervalMs => "tick_interval_ms"
  | queueCapacity => "queue_capacity"
  | batchSize => "batch_size"
  | emergencyProbability => "emergency_probability"
  | victimStrategy => "victim_strategy"
  | strictInvariants => "strict_invariants"
  | seed => "seed"

/-- The name of the setting's variable, without the stem. -/
def label : Setting → String
  | durationSecs => "DURATION_SECS"
  | minArrivalSecs => "MIN_ARRIVAL_SECS"
  | maxArrivalSecs => "MAX_ARRIVAL_SECS"
  | timeQuantum => "TIME_QUANTUM"
  | initialPolicy => "POLICY"
  | debug => "DEBUG"
  | crossTimeMs => "CROSS_TIME_MS"
  | contextSwitchMs => "CONTEXT_SWITCH_MS"
  | tickIntervalMs => "TICK_INTERVAL_MS"
  | queueCapacity => "QUEUE_CAPACITY"
  | batchSize => "BATCH_SIZE"
  | emergencyProbability => "EMERGENCY_PROBABILITY"
  | victimStrategy => "VICTIM_STRATEGY"
  | strictInvariants => "STRICT_INVARIANTS"
  | seed => "SEED"

def assign : (s : Setting) → s.kind.Content → Config → Config
  | durationSecs, n, c => { c with durationSecs := n }
  | minArrivalSecs, n, c => { c with minArrivalSecs := n }
  | maxArrivalSecs, n, c => { c with maxArrivalSecs := n }
  | timeQuantum, n, c => { c with timeQuantum := n }
  | initialPolicy, p, c => { c with initialPolicy := p }
  | debug, b, c => { c with debug := b }
  | crossTimeMs, n, c => { c with crossTimeMs := n }
  | contextSwitchMs, n, c => { c with contextSwitchMs := n }
  | tickIntervalMs, n, c => { c with tickIntervalMs := n }
  | queueCapacity, n, c => { c with queueCapacity := n }
  | batchSize, n, c => { c with batchSize := n }
  | emergencyProbability, n, c => { c with emergencyProbability := n }
  | victimStrategy, v, c => { c with victimStrategy := v }
  | strictInvariants, b, c => { c with strictInvariants := b }
  | seed, n, c => { c with seed := some n }

theorem field_injective {s t : Setting} (h : s.field = t.field) : s = t := by
  revert h
  cases s <;> cases t <;> decide

theorem assign_comm {s t : Setting} (h : s ≠ t) (m : s.kind.Content) (n : t.kind.Content) (c : Config) :
    s.assign m (t.assign n c) = t.assign n (s.assign m c) := by
  cases s <;> cases t <;> first | exact absurd rfl h | rfl

def asVariable (s : Setting) : Variable where
  name := s.label
  assign cs := (s.kind.ofText cs).map s.assign

/-- **The variables are the settings, read by their kinds.** -/
theorem settingVariables_eq : settingVariables = all.map asVariable := rfl

theorem ofVariables_eq_map (lookup : String → Option String) :
    ofVariables lookup = (all.foldlM (fun c s => setVariable lookup c s.asVariable) {}).map normalized := by
  rw [ofVariables, settingVariables_eq, List.foldlM_map]

/-- Variables of which none is refused are set one after another. -/
theorem foldlM_setVariable {lookup : String → Option String} {f : Config → Setting → Config} :
    ∀ (order : List Setting) (c : Config), (∀ s ∈ order, ∀ c, setVariable lookup c s.asVariable = .ok (f c s)) →
      order.foldlM (fun c s => setVariable lookup c s.asVariable) c = .ok (order.foldl f c)
  | [], _, _ => rfl
  | s :: order, c, h => by
    obtain ⟨hs, horder⟩ := List.forall_mem_cons.1 h
    rw [List.foldlM_cons, hs]
    exact foldlM_setVariable order _ horder

/-- **The field of a setting is read by its kind.**  Only the seed may be null, and then it is not read. -/
theorem find?_field (s : Setting) : ∃ f, fields.find? (fun f => f.name == s.field) = some f ∧ f.name = s.field ∧
    ∀ j, j.isNull = false → f.assign j = (s.kind.ofJson? j).map s.assign := by
  cases s
  case seed => exact ⟨_, rfl, rfl, fun j hj => by simp [hj]; rfl⟩
  all_goals exact ⟨_, rfl, rfl, fun _ _ => rfl⟩

end Setting
end Crossroads.Config
