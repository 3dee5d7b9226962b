import Crossroads.LockOrder
import Mathlib.Logic.Function.Basic
/-!
# Lock yards

Any number of threads over any number of layered locks, under one monitor.  A thread locks in three sections: the order
of the layers is checked, the lock is waited for and taken, and its layer is noted.  It drops a guard in two: the layer
is struck off, and the lock given back.  Other threads come in between.  A thread that is alone does with a row of locks
what `LockRow` says (`Shows.lock`, `Shows.tryLock`, `Shows.unlock`).
-/
namespace Crossroads

inductive LockPhase (κ : Type) where
  | free
  /-- The order was checked, and the lock is waited for. -/
  | waits (k : κ)
  /-- The lock is taken, and its layer is yet to be noted. -/
  | notes (k : κ)
  /-- The layer is struck off, and the lock is yet to be given back. -/
  | returns (k : κ)

/-- A thread: where it is, the layers it has noted, and the locks whose guards it has, oldest first. -/
structure LockUser (κ : Type) where
  phase : LockPhase κ := .free
  held : HeldLayers := []
  guards : List κ := []

structure LockYard (ι κ : Type) where
  layer : κ → Layer
  user : ι → LockUser κ := fun _ => {}
  owner : κ → Option ι := fun _ => none
  monitor : Monitor := {}

inductive LockMove (ι κ : Type) where
  | ask (i : ι) (k : κ)
  | take (i : ι)
  /-- Takes a lock without waiting and without a check. -/
  | tryTake (i : ι) (k : κ)
  | note (i : ι)
  /-- Begins to drop a guard: its layer is struck off. -/
  | strike (i : ι) (k : κ)
  | giveBack (i : ι)
  | report (v : Violation)

namespace LockUser

variable {κ : Type}

/-- Whether a lock is in the hands of a thread, be its layer noted or not. -/
def Holds (u : LockUser κ) (k : κ) : Prop := k ∈ u.guards ∨ u.phase = .notes k ∨ u.phase = .returns k

def noting (u : LockUser κ) (layer : κ → Layer) (k : κ) : LockUser κ where
  phase := .free
  held := u.held.acquire (layer k)
  guards := u.guards ++ [k]

def striking [DecidableEq κ] (u : LockUser κ) (layer : κ → Layer) (k : κ) : LockUser κ where
  phase := .returns k
  held := u.held.letGo (layer k)
  guards := u.guards.erase k

end LockUser

namespace LockYard

variable {ι κ : Type} [DecidableEq ι] [DecidableEq κ]

def setUser (y : LockYard ι κ) (i : ι) (u : LockUser κ) : LockYard ι κ :=
  { y with user := Function.update y.user i u }

def setOwner (y : LockYard ι κ) (k : κ) (o : Option ι) : LockYard ι κ :=
  { y with owner := Function.update y.owner k o }

def setPhase (y : LockYard ι κ) (i : ι) (p : LockPhase κ) : LockYard ι κ := y.setUser i { y.user i with phase := p }

def reports (y : LockYard ι κ) : LockMove ι κ → Option Violation
  | .ask i k =>
    match (y.user i).phase with
    | .free => ((y.user i).held.obstacle (y.layer k)).map (y.layer k).breach
    | _ => none
  | .report v => some v
  | _ => none

/-- What a move does to the threads and the locks; a move that cannot be made does nothing.  A strict monitor halts the
thread that reports a breach, and the lock is not waited for. -/
def move (y : LockYard ι κ) : LockMove ι κ → LockYard ι κ
  | .ask i k =>
    match (y.user i).phase with
    | .free =>
      if y.monitor.strict ∧ (y.user i).held.obstacle (y.layer k) ≠ none then y else y.setPhase i (.waits k)
    | _ => y
  | .take i =>
    match (y.user i).phase with
    | .waits k => if y.owner k = none then (y.setOwner k (some i)).setPhase i (.notes k) else y
    | _ => y
  | .tryTake i k =>
    match (y.user i).phase with
    | .free => if y.owner k = none then (y.setOwner k (some i)).setPhase i (.notes k) else y
    | _ => y
  | .note i =>
    match (y.user i).phase with
    | .notes k => y.setUser i ((y.user i).noting y.layer k)
    | _ => y
  | .strike i k =>
    match (y.user i).phase with
    | .free => if k ∈ (y.user i).guards then y.setUser i ((y.user i).striking y.layer k) else y
    | _ => y
  | .giveBack i =>
    match (y.user i).phase with
    | .returns k => (y.setOwner k none).setPhase i .free
    | _ => y
  | .report _ => y

def perform (y : LockYard ι κ) (m : LockMove ι κ) : LockYard ι κ :=
  { y.move m with monitor := (y.reports m).elim y.monitor y.monitor.record }

def after (y : LockYard ι κ) (ms : List (LockMove ι κ)) : LockYard ι κ := ms.foldl perform y

def recorded : LockYard ι κ → List (LockMove ι κ) → List Violation
  | _, [] => []
  | y, m :: ms => (y.reports m).toList ++ recorded (y.perform m) ms

omit [DecidableEq ι] [DecidableEq κ] in
/-- A thread waits for the lock of another, or for its own. -/
def WaitsFor (y : LockYard ι κ) (a b : ι) : Prop := ∃ k, (y.user a).phase = .waits k ∧ y.owner k = some b

end LockYard
end Crossroads
