import Crossroads.Routine.Operation
import Mathlib.Logic.Function.Basic
/-!
# Crews

Threads that share a junction.  Each carries out one operation after the other, section by section; in every step of the
crew one thread moves, whichever it is (`Crew.Step`).  A thread waits only for a lock that is held.  Where the order of
the threads is given, the crew can be computed (`Crew.after`).
-/
namespace Crossroads

structure Task where
  rest : Routine Reply
  held : HeldLayers

structure Crew (ι : Type) where
  junction : Junction
  holder : Lock → Option ι
  task : ι → Option Task

namespace Crew

variable {ι : Type}

def idle (j : Junction) : Crew ι := ⟨j, fun _ => none, fun _ => none⟩

def held (c : Crew ι) (i : ι) : HeldLayers := ((c.task i).map (·.held)).getD []

def setJunction (c : Crew ι) (j : Junction) : Crew ι := { c with junction := j }

def setHolder (c : Crew ι) (lock : Lock) (h : Option ι) : Crew ι :=
  { c with holder := Function.update c.holder lock h }

theorem held_of_task (c : Crew ι) {i : ι} {t : Task} (h : c.task i = some t) : c.held i = t.held := by
  rw [held, h]
  rfl

@[simp] theorem holder_setHolder_self (c : Crew ι) (lock : Lock) (h : Option ι) :
    (c.setHolder lock h).holder lock = h := Function.update_self ..

theorem holder_setHolder_of_ne (c : Crew ι) {lock other : Lock} (h : Option ι) (hne : other ≠ lock) :
    (c.setHolder lock h).holder other = c.holder other := Function.update_of_ne hne ..

variable [DecidableEq ι]

def setTask (c : Crew ι) (i : ι) (t : Option Task) : Crew ι := { c with task := Function.update c.task i t }

/-- A thread ends its operation; whatever locks it still holds become free. -/
def leave (c : Crew ι) (i : ι) : Crew ι :=
  { c with
    holder := fun lock => if c.holder lock = some i then none else c.holder lock
    task := Function.update c.task i none }

section

variable (c : Crew ι) {i k : ι}

@[simp] theorem task_setTask_self (t : Option Task) : (c.setTask i t).task i = t := Function.update_self ..

theorem task_setTask_of_ne (t : Option Task) (h : k ≠ i) : (c.setTask i t).task k = c.task k :=
  Function.update_of_ne h ..

theorem holder_setTask (t : Option Task) : (c.setTask i t).holder = c.holder := rfl

@[simp] theorem held_setTask_self (t : Task) : (c.setTask i (some t)).held i = t.held :=
  held_of_task _ (c.task_setTask_self _)

@[simp] theorem task_leave_self : (c.leave i).task i = none := Function.update_self ..

theorem task_leave_of_ne (h : k ≠ i) : (c.leave i).task k = c.task k := Function.update_of_ne h ..

theorem holder_leave {lock : Lock} (h : c.holder lock ≠ some i) : (c.leave i).holder lock = c.holder lock := if_neg h

end

inductive Fails (c : Crew ι) (i : ι) (f : Fault) (j : Junction) : Prop where
  | perform {β : Type} {act : Act β} {next : β → Routine Reply} {held : HeldLayers} :
    c.task i = some ⟨.perform act next, held⟩ → act.runOn c.junction = (.error f, j) → Fails c i f j
  | ask {lock : Lock} {next : Routine Reply} {held : HeldLayers} :
    c.task i = some ⟨.ask lock next, held⟩ → (checkLayer held lock.layer).runOn c.junction = (.error f, j) →
    Fails c i f j

inductive Step (allowed : Operation → Prop) (c : Crew ι) : Crew ι → Prop where
  | start {i : ι} {op : Operation} : c.task i = none → allowed op → Step allowed c (c.setTask i (some ⟨op.routine, []⟩))
  | perform {i : ι} {β : Type} {act : Act β} {next : β → Routine Reply} {held : HeldLayers} {b : β} {j : Junction} :
    c.task i = some ⟨.perform act next, held⟩ → act.runOn c.junction = (.ok b, j) →
    Step allowed c ((c.setJunction j).setTask i (some ⟨next b, held⟩))
  | ask {i : ι} {lock : Lock} {next : Routine Reply} {held : HeldLayers} {j : Junction} :
    c.task i = some ⟨.ask lock next, held⟩ → (checkLayer held lock.layer).runOn c.junction = (.ok (), j) →
    Step allowed c ((c.setJunction j).setTask i (some ⟨next, held⟩))
  | take {i : ι} {lock : Lock} {next : Routine Reply} {held : HeldLayers} :
    c.task i = some ⟨.take lock next, held⟩ → c.holder lock = none →
    Step allowed c ((c.setHolder lock (some i)).setTask i (some ⟨next, held.acquire lock.layer⟩))
  | drop {i : ι} {lock : Lock} {next : Routine Reply} {held : HeldLayers} :
    c.task i = some ⟨.drop lock next, held⟩ →
    Step allowed c ((c.setHolder lock none).setTask i (some ⟨next, held.letGo lock.layer⟩))
  | finish {i : ι} {a : Reply} {held : HeldLayers} : c.task i = some ⟨.done a, held⟩ → Step allowed c (c.leave i)
  | fail {i : ι} {f : Fault} {j : Junction} : c.Fails i f j → Step allowed c ((c.setJunction j).leave i)

/-- A crew that comes about from idle threads at a freshly built junction. -/
inductive Reachable (allowed : Operation → Prop) : Crew ι → Prop where
  | built {b : Blueprint} {now : Nat} {j : Junction} : b.build now = .ok j → Reachable allowed (idle j)
  | step {c c' : Crew ι} : Reachable allowed c → Step allowed c c' → Reachable allowed c'

/-! ## Threads in a given order -/

def takeUp (c : Crew ι) (i : ι) (op : Operation) : Crew ι :=
  if (c.task i).isNone then c.setTask i (some ⟨op.routine, []⟩) else c

/-- The next section of a thread.  The crew stays as it is if the thread is idle, or waits for a lock. -/
def move (c : Crew ι) (i : ι) : Crew ι :=
  match c.task i with
  | none => c
  | some ⟨.done _, _⟩ => c.leave i
  | some ⟨.perform act next, held⟩ =>
    match act.runOn c.junction with
    | (.ok b, j) => (c.setJunction j).setTask i (some ⟨next b, held⟩)
    | (.error _, j) => (c.setJunction j).leave i
  | some ⟨.ask lock next, held⟩ =>
    match (checkLayer held lock.layer).runOn c.junction with
    | (.ok _, j) => (c.setJunction j).setTask i (some ⟨next, held⟩)
    | (.error _, j) => (c.setJunction j).leave i
  | some ⟨.take lock next, held⟩ =>
    if (c.holder lock).isNone then (c.setHolder lock (some i)).setTask i (some ⟨next, held.acquire lock.layer⟩) else c
  | some ⟨.drop lock next, held⟩ => (c.setHolder lock none).setTask i (some ⟨next, held.letGo lock.layer⟩)

def after : Crew ι → List ι → Crew ι
  | c, [] => c
  | c, i :: order => (c.move i).after order

/-- The crew after a thread has taken up an operation and moved so many times. -/
def carryOn (c : Crew ι) (i : ι) (op : Operation) (moves : Nat) : Crew ι := (c.takeUp i op).after (.replicate moves i)

def answer (c : Crew ι) (i : ι) : Option Reply :=
  match c.task i with
  | some ⟨.done a, _⟩ => some a
  | _ => none

namespace Reachable

variable {c : Crew ι} {allowed : Operation → Prop}

theorem takeUp {op : Operation} (h : c.Reachable allowed) (i : ι) (hop : allowed op) :
    (c.takeUp i op).Reachable allowed := by
  unfold Crew.takeUp
  split
  · rename_i hidle
    exact h.step (.start (Option.isNone_iff_eq_none.1 hidle) hop)
  · exact h

theorem move (h : c.Reachable allowed) (i : ι) : (c.move i).Reachable allowed := by
  unfold Crew.move
  split
  · exact h
  · rename_i ht
    exact h.step (.finish ht)
  · rename_i ht
    split
    · rename_i hrun
      exact h.step (.perform ht hrun)
    · rename_i hrun
      exact h.step (.fail (.perform ht hrun))
  · rename_i ht
    split
    · rename_i hrun
      exact h.step (.ask ht hrun)
    · rename_i hrun
      exact h.step (.fail (.ask ht hrun))
  · rename_i ht
    split
    · rename_i hfree
      exact h.step (.take ht (Option.isNone_iff_eq_none.1 hfree))
    · exact h
  · rename_i ht
    exact h.step (.drop ht)

theorem after : ∀ (order : List ι) {c : Crew ι}, c.Reachable allowed → (c.after order).Reachable allowed
  | [], _, h => h
  | i :: order, _, h => after order (h.move i)

theorem carryOn {op : Operation} (h : c.Reachable allowed) (i : ι) (hop : allowed op) (moves : Nat) :
    (c.carryOn i op moves).Reachable allowed := after _ (h.takeUp i hop)

end Reachable

end Crew
end Crossroads
