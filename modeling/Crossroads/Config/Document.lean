import Crossroads.Config
import Crossroads.Json.Reader
/-!
# Configuration documents

A configuration is read from a JSON object of fields, or from an array of the fields in their order.  Fields that are
left out keep their defaults, unknown fields are skipped, and a known field given twice is refused.
-/
namespace Crossroads.Config

open Text (Range)

/-- A field of a configuration: its name, and how a value sets it. -/
structure Field where
  name : String
  assign : Json → Option (Config → Config)

def fields : List Field :=
  [⟨"duration_secs", fun j => (j.intIn? .signed64).map (fun n c => { c with durationSecs := n })⟩,
   ⟨"min_arrival_secs", fun j => (j.intIn? .signed64).map (fun n c => { c with minArrivalSecs := n })⟩,
   ⟨"max_arrival_secs", fun j => (j.intIn? .signed64).map (fun n c => { c with maxArrivalSecs := n })⟩,
   ⟨"time_quantum", fun j => (j.intIn? .signed64).map (fun n c => { c with timeQuantum := n })⟩,
   ⟨"initial_policy", fun j => (j.choice? Policy.ofName? Json.isNull).map (fun p c => { c with initialPolicy := p })⟩,
   ⟨"debug", fun j => j.bool?.map (fun b c => { c with debug := b })⟩,
   ⟨"cross_time_ms", fun j => (j.natIn? .unsigned64).map (fun n c => { c with crossTimeMs := n })⟩,
   ⟨"context_switch_ms", fun j => (j.natIn? .unsigned64).map (fun n c => { c with contextSwitchMs := n })⟩,
   ⟨"tick_interval_ms", fun j => (j.natIn? .unsigned64).map (fun n c => { c with tickIntervalMs := n })⟩,
   ⟨"lane_tick_ms", fun j => (j.natIn? .unsigned64).map (fun n c => { c with laneTickMs := n })⟩,
   ⟨"status_interval_ms", fun j => (j.natIn? .unsigned64).map (fun n c => { c with statusIntervalMs := n })⟩,
   ⟨"queue_capacity", fun j => (j.natIn? .unsigned64).map (fun n c => { c with queueCapacity := n })⟩,
   ⟨"batch_size", fun j => (j.natIn? .unsigned32).map (fun n c => { c with batchSize := n })⟩,
   ⟨"history_capacity", fun j => (j.natIn? .unsigned64).map (fun n c => { c with historyCapacity := n })⟩,
   ⟨"deadlock_check_interval",
     fun j => (j.natIn? .unsigned64).map (fun n c => { c with deadlockCheckInterval := n })⟩,
   ⟨"quadrants_per_crossing", fun j => (j.natIn? .unsigned8).map (fun n c => { c with quadrantsPerCrossing := n })⟩,
   ⟨"emergency_probability", fun j => (j.natIn? .unsigned32).map (fun n c => { c with emergencyProbability := n })⟩,
   ⟨"mlfq_levels", fun j => (j.natIn? .unsigned32).map (fun n c => { c with mlfqLevels := n })⟩,
   ⟨"aging_threshold", fun j => (j.natIn? .unsigned64).map (fun n c => { c with agingThreshold := n })⟩,
   ⟨"victim_strategy",
     fun j => (j.choice? VictimStrategy.ofName? Json.isNull).map (fun v c => { c with victimStrategy := v })⟩,
   ⟨"strict_invariants", fun j => j.bool?.map (fun b c => { c with strictInvariants := b })⟩,
   ⟨"seed", fun j =>
     if j.isNull then some (fun c => { c with seed := none })
     else (j.natIn? .unsigned64).map (fun n c => { c with seed := some n })⟩]

/-- The configuration after some members, given the fields that were set before them. -/
def setMembers : List String → List (List TextUnit × Json) → Config → Option Config
  | _, [], c => some c
  | seen, (key, value) :: members, c => do
    let name := String.ofList (← TextUnit.text? key)
    match fields.find? (fun f => f.name == name) with
    | none => setMembers seen members c
    | some f =>
      if seen.contains f.name then none
      else setMembers (f.name :: seen) members ((← f.assign value) c)

def setItems : List Field → List Json → Config → Option Config
  | _, [], c => some c
  | [], _ :: _, _ => none
  | f :: fs, value :: items, c => do setItems fs items ((← f.assign value) c)

def ofJson? : Json → Option Config
  | .object members => setMembers [] members {}
  | .array items    => setItems fields items {}
  | _               => none

def ofDocument (text : String) : Except TrafficError Config :=
  match (Json.ofText? text).bind ofJson? with
  | some c => .ok c.normalized
  | none   => .error (.initializationFailure .badDocument)

end Crossroads.Config
