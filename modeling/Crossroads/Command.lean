import Crossroads.Junction.Step
import Crossroads.Json.Reader
/-!
# Commands

What an operator may ask of a running simulation, the JSON form of it, and its effect.  A command's document is an
object whose member `command` names it; members that the command has no use for are skipped.  An array of the name
and the command's fields in their order is read as well.
-/
namespace Crossroads

open Act

inductive Command where
  | pause
  | resume
  | setPolicy (policy : Policy)
  | triggerEmergency (lane : Nat) (kind : EmergencyKind)
  | shutdown
deriving DecidableEq

namespace Command

/-! ## Writing -/

/-- A member with a text that needs no escapes. -/
def textMember (key value : String) : String := "\"" ++ key ++ "\":\"" ++ value ++ "\""

def memberTexts : Command → List String
  | pause          => [textMember "command" "pause"]
  | resume         => [textMember "command" "resume"]
  | setPolicy p    => [textMember "command" "set_policy", textMember "policy" p.name]
  | triggerEmergency lane kind =>
    [textMember "command" "trigger_emergency", "\"lane\":" ++ Text.natText lane, textMember "kind" kind.name]
  | shutdown       => [textMember "command" "shutdown"]

def document (c : Command) : String := "\x7b" ++ ",".intercalate c.memberTexts ++ "\x7d"

/-! ## Reading -/

def maxDepth : Nat := 127

def namedMembers (members : List (List TextUnit × Json)) : Option (List (String × Json)) :=
  members.mapM (fun m => (TextUnit.text? m.1).map (fun key => (String.ofList key, m.2)))

/-- The value of a member that is there exactly once. -/
def onlyMember (members : List (String × Json)) (key : String) : Option Json :=
  match members.filter (fun m => m.1 == key) with
  | [(_, value)] => some value
  | _            => none

/-- Whether a value stands for nothing: null, or an object without members. -/
def isNothing : Json → Bool
  | .null      => true
  | .object [] => true
  | _          => false

def policyOf? (j : Json) : Option Policy := j.choice? Policy.ofName? isNothing

def kindOf? (j : Json) : Option EmergencyKind := j.choice? EmergencyKind.ofName? isNothing

def ofMembers? (name : String) (members : List (String × Json)) : Option Command :=
  match name with
  | "pause"      => some pause
  | "resume"     => some resume
  | "shutdown"   => some shutdown
  | "set_policy" => do return setPolicy (← policyOf? (← onlyMember members "policy"))
  | "trigger_emergency" => do
    let lane ← (← onlyMember members "lane").natIn? .unsigned64
    let kind ← kindOf? (← onlyMember members "kind")
    return triggerEmergency lane kind
  | _ => none

def ofItems? (name : String) (items : List Json) : Option Command :=
  match name, items with
  | "pause", []      => some pause
  | "resume", []     => some resume
  | "shutdown", []   => some shutdown
  | "set_policy", [policy] => do return setPolicy (← policyOf? policy)
  | "trigger_emergency", [lane, kind] => do return triggerEmergency (← lane.natIn? .unsigned64) (← kindOf? kind)
  | _, _ => none

/-- The command of a JSON value.  Every string of it must be whole text and every number must have the size of a
double, also in members that are skipped. -/
def ofJson? (j : Json) : Option Command :=
  if j.depth ≤ maxDepth && j.isWhole then
    match j with
    | .object members => do
      let members ← namedMembers members
      let name ← (← onlyMember members "command").text?
      ofMembers? name members
    | .array (name :: items) => do ofItems? (← name.text?) items
    | _ => none
  else none

def ofDocument? (text : String) : Option Command := (Json.ofText? text).bind ofJson?

/-! ## Effect -/

/-- Carries out a command; answers whether it changed anything. -/
def apply : Command → Act Bool
  | pause => Crossroads.pause
  | resume => Crossroads.resume
  | setPolicy p => do
    let before := (← get).scheduler.policy
    swapPolicy p
    return before ≠ p
  | triggerEmergency lane kind => do
    let l ← ofExcept (Lane.ofIndex lane)
    Crossroads.triggerEmergency l kind
  | shutdown => requestStop

end Command

end Crossroads
