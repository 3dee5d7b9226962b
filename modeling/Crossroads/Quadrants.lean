import Crossroads.Fault
/-!
# Quadrants

The crossing has a fixed number of quadrants.  A lane asks for some before it crosses and gives them back afterwards.
A grant is committed only if it leaves a safe state: some order of the lanes lets every pending request be met from
what is free and what the lanes before it give back.  `isSafe` looks for such an order greedily; `IsCompletionOrder`
says what one is.
-/
namespace Crossroads

def totalQuadrants : Nat := 4

/-! ## Safe states -/

/-- Lets the first unfinished lane whose need is met finish and give back what it holds, again and again; answers
whether all lanes finish.  Each round finishes a lane, so as many rounds as there are lanes are enough. -/
def finishAll (allocation need : PerLane Nat) : Nat → List Lane → Nat → Bool
  | 0, unfinished, _ => unfinished.isEmpty
  | rounds + 1, unfinished, free =>
    match unfinished.find? (fun l => need.get l ≤ free) with
    | none   => unfinished.isEmpty
    | some l => finishAll allocation need rounds (unfinished.erase l) (free + allocation.get l)

def isSafe (total : Nat) (allocation need : PerLane Nat) : Bool :=
  allocation.sum ≤ total && finishAll allocation need 4 Lane.all (total - allocation.sum)

/-- An order of lanes in which each need is met from what is free and what the lanes before it give back. -/
def Finishes (allocation need : PerLane Nat) : Nat → List Lane → Prop
  | _, []         => True
  | free, l :: ls => need.get l ≤ free ∧ Finishes allocation need (free + allocation.get l) ls

def IsCompletionOrder (total : Nat) (allocation need : PerLane Nat) (order : List Lane) : Prop :=
  order.Perm Lane.all ∧ allocation.sum ≤ total ∧ Finishes allocation need (total - allocation.sum) order

/-! ## The allocator -/

structure Allocator where
  total : Nat := totalQuadrants
  allocation : PerLane Nat := .replicate 0
  request : PerLane Nat := .replicate 0
deriving DecidableEq

namespace Allocator

def available (a : Allocator) : Nat := a.total - a.allocation.sum

def safe (a : Allocator) : Bool := isSafe a.total a.allocation a.request

def grant (a : Allocator) (l : Lane) (count : Nat) : Allocator :=
  { a with allocation := a.allocation.modify l (· + count), request := a.request.set l 0 }

def pend (a : Allocator) (l : Lane) (count : Nat) : Allocator := { a with request := a.request.set l count }

/-- Asks for quadrants.  An invalid request leaves everything as it was; a denied one stays pending; a granted one is
committed, and what is free afterwards is the answer. -/
def requestQuadrants (a : Allocator) (l : Lane) (count : Nat) : Except TrafficError Nat × Allocator :=
  if count = 0 then (.error (.invalidRequest l count .nothing), a)
  else if a.total < a.allocation.get l + count then (.error (.invalidRequest l count (.beyond a.total)), a)
  else if a.available < count then (.error (.resourceDenied l count a.available), a.pend l count)
  else if (a.grant l count).safe then (.ok (a.grant l count).available, a.grant l count)
  else (.error (.resourceDenied l count a.available), a.pend l count)

def retry (a : Allocator) (l : Lane) (pending : Nat) : Except TrafficError (Option Nat) × Allocator :=
  if pending = 0 then (.ok none, a)
  else match a.requestQuadrants l pending with
    | (.ok free, a') => (.ok (some free), a')
    | (.error e, a') => (.error e, a')

/-- Asks again for what a lane was denied.  The pending number is read first and asked for afterwards. -/
def retryPending (a : Allocator) (l : Lane) : Except TrafficError (Option Nat) × Allocator :=
  a.retry l (a.request.get l)

/-- Takes back what a lane holds and forgets its pending request; answers how much it held. -/
def release (a : Allocator) (l : Lane) : Nat × Allocator :=
  (a.allocation.get l, { a with allocation := a.allocation.set l 0, request := a.request.set l 0 })

theorem release_allocation (a : Allocator) (l m : Lane) :
    (a.release l).2.allocation.get m = if m = l then 0 else a.allocation.get m := PerLane.get_set _ _ _ _

theorem release_request (a : Allocator) (l m : Lane) :
    (a.release l).2.request.get m = if m = l then 0 else a.request.get m := PerLane.get_set _ _ _ _

end Allocator

structure ResourceSnapshot where
  total : Nat
  available : Nat
  allocation : PerLane Nat
  request : PerLane Nat
deriving DecidableEq

def Allocator.snapshot (a : Allocator) : ResourceSnapshot := ⟨a.total, a.available, a.allocation, a.request⟩

end Crossroads
