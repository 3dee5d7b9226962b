import Crossroads.Config
/-!
# Configuration variables

Fifteen of the settings can be given as texts by name.  They are read in their order, and the first text that is no
value of its setting is reported, quoted as it was given.
-/
namespace Crossroads.Config

open Text (Range)

/-- A setting that a variable gives: its name, and how a text sets it. -/
structure Variable where
  name : String
  assign : List Char → Except String (Config → Config)

def variableStem : String := "TRAFFICGURU_"

def Variable.fullName (v : Variable) : String := variableStem ++ v.name

def readNumber (r : Range) (cs : List Char) : Except String Int := (Text.readInt r cs).mapError (·.message)

def readNat (r : Range) (cs : List Char) : Except String Nat := (readNumber r cs).map Int.toNat

def readBool (cs : List Char) : Except String Bool :=
  if cs = "true".toList then .ok true
  else if cs = "false".toList then .ok false
  else .error "provided string was not `true` or `false`"

def readChoice {α : Type} (ofText : String → Except SetupFault α) (cs : List Char) : Except String α :=
  (ofText (String.ofList cs)).mapError (fun fault => (TrafficError.initializationFailure fault).message)

def settingVariables : List Variable :=
  [⟨"DURATION_SECS", fun cs => (readNumber .signed64 cs).map (fun n c => { c with durationSecs := n })⟩,
   ⟨"MIN_ARRIVAL_SECS", fun cs => (readNumber .signed64 cs).map (fun n c => { c with minArrivalSecs := n })⟩,
   ⟨"MAX_ARRIVAL_SECS", fun cs => (readNumber .signed64 cs).map (fun n c => { c with maxArrivalSecs := n })⟩,
   ⟨"TIME_QUANTUM", fun cs => (readNumber .signed64 cs).map (fun n c => { c with timeQuantum := n })⟩,
   ⟨"POLICY", fun cs => (readChoice Policy.ofText cs).map (fun p c => { c with initialPolicy := p })⟩,
   ⟨"DEBUG", fun cs => (readBool cs).map (fun b c => { c with debug := b })⟩,
   ⟨"CROSS_TIME_MS", fun cs => (readNat .unsigned64 cs).map (fun n c => { c with crossTimeMs := n })⟩,
   ⟨"CONTEXT_SWITCH_MS", fun cs => (readNat .unsigned64 cs).map (fun n c => { c with contextSwitchMs := n })⟩,
   ⟨"TICK_INTERVAL_MS", fun cs => (readNat .unsigned64 cs).map (fun n c => { c with tickIntervalMs := n })⟩,
   ⟨"QUEUE_CAPACITY", fun cs => (readNat .unsigned64 cs).map (fun n c => { c with queueCapacity := n })⟩,
   ⟨"BATCH_SIZE", fun cs => (readNat .unsigned32 cs).map (fun n c => { c with batchSize := n })⟩,
   ⟨"EMERGENCY_PROBABILITY",
     fun cs => (readNat .unsigned32 cs).map (fun n c => { c with emergencyProbability := n })⟩,
   ⟨"VICTIM_STRATEGY", fun cs => (readChoice VictimStrategy.ofText cs).map (fun v c => { c with victimStrategy := v })⟩,
   ⟨"STRICT_INVARIANTS", fun cs => (readBool cs).map (fun b c => { c with strictInvariants := b })⟩,
   ⟨"SEED", fun cs => (readNat .unsigned64 cs).map (fun n c => { c with seed := some n })⟩]

def setVariable (lookup : String → Option String) (c : Config) (v : Variable) : Except TrafficError Config :=
  match lookup v.fullName with
  | none => .ok c
  | some raw =>
    match v.assign (Text.trim raw.toList) with
    | .ok f => .ok (f c)
    | .error reason => .error (.initializationFailure (.badVariable v.fullName raw reason))

def ofVariables (lookup : String → Option String) : Except TrafficError Config :=
  (settingVariables.foldlM (setVariable lookup) {}).map normalized

end Crossroads.Config
