import Crossroads.Junction
/-!
# Routines

An operation as a thread carries it out: sections, each of which touches the junction at once, between the taking and
the dropping of locks.  Other threads come in between the sections; carried out by a thread that has the junction to
itself, a routine is an action (`Routine.run`).
-/
namespace Crossroads

inductive Lock where
  | scheduler
  | emergencies
  | metrics
  | lane (l : Lane)
  | allocator
deriving DecidableEq

def Lock.layer : Lock → Layer
  | scheduler   => .scheduler
  | emergencies => .emergency
  | metrics     => .metrics
  | lane _      => .lane
  | allocator   => .allocator

theorem Lock.layer_ne_scheduler {lock : Lock} (h : lock ≠ .scheduler) : lock.layer ≠ .scheduler := by
  cases lock with
  | scheduler => exact absurd rfl h
  | _ => exact nofun

inductive Routine (α : Type) : Type 1 where
  | done (a : α)
  /-- A section that touches the junction at once; when it fails, so does the routine. -/
  | perform {β : Type} (act : Act β) (next : β → Routine α)
  /-- The order of the layers is checked, before the thread waits for a lock. -/
  | ask (lock : Lock) (next : Routine α)
  | take (lock : Lock) (next : Routine α)
  | drop (lock : Lock) (next : Routine α)

namespace Routine

variable {α β : Type}

protected def bind : Routine α → (α → Routine β) → Routine β
  | done a, k           => k a
  | perform act next, k => perform act (fun b => (next b).bind k)
  | ask lock next, k    => ask lock (next.bind k)
  | take lock next, k   => take lock (next.bind k)
  | drop lock next, k   => drop lock (next.bind k)

instance : Monad Routine where
  pure := done
  bind := Routine.bind

def act (a : Act α) : Routine α := perform a done

def under (lock : Lock) (r : Routine α) : Routine α :=
  ask lock (take lock (r >>= fun a => drop lock (done a)))

def locked (lock : Lock) (a : Act α) : Routine α := under lock (act a)

def perLane (f : Lane → Routine α) : Routine (PerLane α) := do
  let n ← f .north
  let s ← f .south
  let e ← f .east
  let w ← f .west
  return ⟨n, s, e, w⟩

/-! ## Carried out alone -/

/-- The routine as an action of a thread that holds some layers and has the junction to itself; answers also what the
thread holds in the end. -/
def run : Routine α → HeldLayers → Act (α × HeldLayers)
  | done a, held           => pure (a, held)
  | perform act next, held => act >>= fun b => (next b).run held
  | ask lock next, held    => checkLayer held lock.layer >>= fun _ => next.run held
  | take lock next, held   => next.run (held.acquire lock.layer)
  | drop lock next, held   => next.run (held.letGo lock.layer)

/-- Under some held layers a routine amounts to an action, and the thread holds the same layers afterwards. -/
def Does (r : Routine α) (held : HeldLayers) (a : Act α) : Prop := r.run held = a >>= fun x => pure (x, held)

theorem run_bind (k : α → Routine β) : ∀ (r : Routine α) (held : HeldLayers),
    (r >>= k).run held = r.run held >>= fun x => (k x.1).run x.2
  | done a, held => by
    show (k a).run held = (pure (a, held) >>= fun x => (k x.1).run x.2)
    rw [pure_bind]
  | perform act next, held => by
    show (act >>= fun b => (next b >>= k).run held) = (act >>= fun b => (next b).run held) >>= _
    rw [bind_assoc]
    exact congrArg (act >>= ·) (funext fun b => run_bind k (next b) held)
  | ask lock next, held => by
    show (checkLayer held lock.layer >>= fun _ => (next >>= k).run held) =
      (checkLayer held lock.layer >>= fun _ => next.run held) >>= _
    rw [bind_assoc, run_bind k next held]
  | take lock next, held => run_bind k next (held.acquire lock.layer)
  | drop lock next, held => run_bind k next (held.letGo lock.layer)

namespace Does

variable {held : HeldLayers}

theorem pure (a : α) : (pure a : Routine α).Does held (pure a) := by
  rw [Does, pure_bind]
  rfl

theorem act (a : Act α) : (act a).Does held a := rfl

theorem bind {r : Routine α} {k : α → Routine β} {a : Act α} {b : α → Act β} (h : r.Does held a)
    (hk : ∀ x, (k x).Does held (b x)) : (r >>= k).Does held (a >>= b) := by
  rw [Does, run_bind, h, bind_assoc, bind_assoc]
  refine congrArg (a >>= ·) (funext fun x => ?_)
  rw [pure_bind]
  exact hk x

theorem under {lock : Lock} {r : Routine α} {a : Act α} (ho : held.obstacle lock.layer = none)
    (h : r.Does (held.acquire lock.layer) a) : (under lock r).Does held a := by
  have hdrop : ∀ x : α × HeldLayers,
      (drop lock (done x.1)).run x.2 = (Pure.pure (x.1, x.2.letGo lock.layer) : Act (α × HeldLayers)) :=
    fun _ => rfl
  show (checkLayer held lock.layer >>= fun _ => (r >>= _).run (held.acquire lock.layer)) = _
  rw [checkLayer_eq_pure ho, pure_bind, run_bind, h, bind_assoc]
  refine congrArg (a >>= ·) (funext fun x => ?_)
  rw [pure_bind, hdrop, HeldLayers.letGo_acquire]

theorem locked {lock : Lock} {a : Act α} (ho : held.obstacle lock.layer = none) : (locked lock a).Does held a :=
  under ho (act a)

theorem ite {c : Prop} [Decidable c] {r s : Routine α} {a b : Act α} (hr : r.Does held a) (hs : s.Does held b) :
    (if c then r else s).Does held (if c then a else b) := by
  split
  · exact hr
  · exact hs

theorem forM {f : Lane → Routine Unit} {a : Lane → Act Unit} (h : ∀ l, (f l).Does held (a l)) :
    ∀ ls : List Lane, (ls.forM f).Does held (ls.forM a)
  | [] => pure _
  | l :: ls => bind (h l) fun _ => forM h ls

theorem congr {r : Routine α} {a b : Act α} (h : r.Does held a) (e : a = b) : r.Does held b := e ▸ h

/-- Lanes that are looked at one after the other are looked at together, if nobody comes in between. -/
theorem perLane (h : held.obstacle .lane = none) (f : Lane → Junction → α) :
    (perLane (fun l => Routine.locked (.lane l) (Act.look (f l)))).Does held
      (Act.look (fun j => .ofFn (fun l => f l j))) := by
  have hone : ∀ l, (Routine.locked (.lane l) (Act.look (f l))).Does held (Act.look (f l)) := fun _ => locked h
  refine (bind (hone .north) fun _ => bind (hone .south) fun _ => bind (hone .east) fun _ =>
    bind (hone .west) fun _ => pure _).congr (Act.ext fun j => ?_)
  simp only [Act.runOn_bind, Act.runOn_look, Act.runOn_pure]
  rfl

end Does

end Routine
end Crossroads
