import Crossroads.Quadrants
import Mathlib.Logic.Function.Basic
/-!
# Callers

Threads that share an allocator, each with calls to make one after the other.  A request and a release are one section
under the lock of the allocator.  A retry is two: it reads what is pending, and then asks for what it has read; other
threads come in between.
-/
namespace Crossroads

inductive AllocatorCall where
  | request (l : Lane) (count : Nat)
  | retry (l : Lane)
  | release (l : Lane)
deriving DecidableEq

inductive AllocatorReply where
  | requested (answer : Except TrafficError Nat)
  | retried (answer : Except TrafficError (Option Nat))
  | released (held : Nat)

def Allocator.call (a : Allocator) : AllocatorCall → AllocatorReply × Allocator
  | .request l count => (.requested (a.requestQuadrants l count).1, (a.requestQuadrants l count).2)
  | .retry l         => (.retried (a.retryPending l).1, (a.retryPending l).2)
  | .release l       => (.released (a.release l).1, (a.release l).2)

/-- A thread: the calls it has yet to make, first the one it is at, and the answers it has. -/
structure Caller where
  calls : List AllocatorCall
  pending : Option Nat := none
  replies : List AllocatorReply := []

namespace Caller

def answered (c : Caller) (reply : AllocatorReply) : Caller where
  calls := c.calls.tail
  replies := c.replies ++ [reply]

/-- The next section of a thread; one that has made all its calls does nothing. -/
def proceed (c : Caller) (a : Allocator) : Caller × Allocator :=
  match c.calls, c.pending with
  | [], _ => (c, a)
  | .retry l :: _, none =>
    if a.request.get l = 0 then (c.answered (.retried (.ok none)), a)
    else ({ c with pending := some (a.request.get l) }, a)
  | .retry l :: _, some n => (c.answered (.retried (a.retry l n).1), (a.retry l n).2)
  | call :: _, _ => (c.answered (a.call call).1, (a.call call).2)

def callAtOnce (c : Caller) (a : Allocator) : Caller × Allocator :=
  match c.calls with
  | [] => (c, a)
  | call :: _ => (c.answered (a.call call).1, (a.call call).2)

end Caller

structure Callers (ι : Type) where
  allocator : Allocator
  caller : ι → Caller

namespace Callers

variable {ι : Type}

def Done (s : Callers ι) : Prop := ∀ i, (s.caller i).calls = []

variable [DecidableEq ι]

def update (s : Callers ι) (i : ι) (r : Caller × Allocator) : Callers ι where
  allocator := r.2
  caller := Function.update s.caller i r.1

def proceed (s : Callers ι) (i : ι) : Callers ι := s.update i ((s.caller i).proceed s.allocator)

def callAtOnce (s : Callers ι) (i : ι) : Callers ι := s.update i ((s.caller i).callAtOnce s.allocator)

def after (s : Callers ι) (schedule : List ι) : Callers ι := schedule.foldl proceed s

def inOrder (s : Callers ι) (order : List ι) : Callers ι := order.foldl callAtOnce s

end Callers
end Crossroads
