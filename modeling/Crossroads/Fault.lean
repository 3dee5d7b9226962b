import Crossroads.Lane
import Crossroads.LaneState
import Crossroads.Text
/-!
# Faults

Everything that can go wrong, as causes, with one function for the wording (`TrafficError.message`).
-/
namespace Crossroads

open Text (natText NumberFault)

inductive RequestFault where
  | nothing
  /-- With what the lane holds, the request goes past the number of quadrants there are. -/
  | beyond (total : Nat)
  | stated (text : String)
deriving DecidableEq

def RequestFault.message : RequestFault → String
  | nothing      => "must request at least one quadrant"
  | beyond total => "exceeds the " ++ natText total ++ " quadrants of the intersection"
  | stated text  => text

inductive SetupFault where
  | unknownPolicy (name : String)
  | unknownStrategy (name : String)
  | badVariable (variableName raw : String) (reason : String)
  | badDocument
  | badVariableFile
  | badConfig (rule : String)
  | stated (text : String)
deriving DecidableEq

def SetupFault.message : SetupFault → String
  | unknownPolicy name       => "unknown policy '" ++ name ++ "'"
  | unknownStrategy name     => "unknown victim strategy '" ++ name ++ "'"
  | badVariable v raw reason => v ++ "='" ++ raw ++ "': " ++ reason
  | badDocument              => "config parse error"
  | badVariableFile          => ".env load error"
  | badConfig rule           => "config invalid: " ++ rule
  | stated text              => text

inductive TrafficError where
  | queueFull (capacity : Nat)
  | queueEmpty
  | resourceDenied (lane : Lane) (requested available : Nat)
  | invalidRequest (lane : Lane) (requested : Nat) (reason : RequestFault)
  | invalidTransition (lane : Lane) (source target : LaneState)
  | invalidLane (index : Nat)
  | invariantViolation (detail : String)
  | initializationFailure (cause : SetupFault)
deriving DecidableEq

namespace TrafficError

def message : TrafficError → String
  | queueFull capacity => "queue full (capacity " ++ natText capacity ++ ")"
  | queueEmpty => "queue empty"
  | resourceDenied lane requested available =>
    "resource denied: lane " ++ lane.name ++ " requested " ++ natText requested ++ ", available " ++ natText available
  | invalidRequest lane requested reason =>
    "invalid request: lane " ++ lane.name ++ " requested " ++ natText requested ++ ": " ++ reason.message
  | invalidTransition lane source target =>
    "invalid transition on lane " ++ lane.name ++ ": " ++ source.text ++ " -> " ++ target.text
  | invalidLane index => "invalid lane index " ++ natText index
  | invariantViolation detail => "invariant violation: " ++ detail
  | initializationFailure cause => "initialization failure: " ++ cause.message

/-- Whether trying again later may succeed: a full or empty queue and denied quadrants pass, all else stays. -/
def isTransient : TrafficError → Bool
  | queueFull _ | queueEmpty | resourceDenied _ _ _ => true
  | _ => false

def exitCode (_ : TrafficError) : Nat := 1

end TrafficError

def Lane.ofIndex (i : Nat) : Except TrafficError Lane :=
  match Lane.ofIndex? i with
  | some l => .ok l
  | none   => .error (.invalidLane i)

end Crossroads
