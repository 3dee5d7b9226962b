import Crossroads.Arrival
import Crossroads.LockOrder
import Crossroads.Metrics
/-!
# The junction

The whole state of a simulated crossroads, and the actions on it.  An action answers or fails, and either way leaves a
state: what was changed before a failure stays changed.  The clock is virtual and moves only by sleeps and by being set.
-/
namespace Crossroads

structure Junction where
  config : Config
  timing : ArrivalTiming
  settings : Settings
  strategy : VictimStrategy
  lanes : PerLane Approach
  scheduler : Scheduler
  allocator : Allocator := {}
  emergencies : Emergencies := {}
  metrics : Metrics
  monitor : Monitor
  clock : Nat
  stopped : Bool := false
  paused : Bool := false
  /-- Driver steps taken. -/
  tick : Nat := 0
  nextVehicle : Nat := 0
deriving DecidableEq

inductive Fault where
  | refused (e : TrafficError)
  | halted (v : Violation)
deriving DecidableEq

abbrev Act (α : Type) := ExceptT Fault (StateM Junction) α

namespace Act

variable {α β : Type}

def runOn (a : Act α) (j : Junction) : Except Fault α × Junction := (ExceptT.run a).run j

def look (f : Junction → α) : Act α := do return f (← get)

def refuse (e : TrafficError) : Act α := throw (.refused e)

def ofExcept : Except TrafficError α → Act α
  | .ok a    => pure a
  | .error e => refuse e

theorem ext {a b : Act α} (h : ∀ j, a.runOn j = b.runOn j) : a = b := funext h

@[simp] theorem runOn_pure (a : α) (j : Junction) : (pure a : Act α).runOn j = (.ok a, j) := rfl

@[simp] theorem runOn_throw (f : Fault) (j : Junction) : (throw f : Act α).runOn j = (.error f, j) := rfl

@[simp] theorem runOn_refuse (e : TrafficError) (j : Junction) : (refuse e : Act α).runOn j = (.error (.refused e), j) :=
  rfl

@[simp] theorem runOn_get (j : Junction) : (get : Act Junction).runOn j = (.ok j, j) := rfl

@[simp] theorem runOn_look (f : Junction → α) (j : Junction) : (look f).runOn j = (.ok (f j), j) := rfl

@[simp] theorem runOn_modify (f : Junction → Junction) (j : Junction) :
    (modify f : Act Unit).runOn j = (.ok (), f j) := rfl

theorem runOn_bind (a : Act α) (k : α → Act β) (j : Junction) :
    (a >>= k).runOn j = match a.runOn j with
      | (.ok x, j')    => (k x).runOn j'
      | (.error f, j') => (.error f, j') := by
  show (ExceptT.bindCont k (a j).1) (a j).2 = match (a j) with
      | (.ok x, j')    => (k x) j'
      | (.error f, j') => (.error f, j')
  rcases a j with ⟨r, j'⟩
  cases r <;> rfl

theorem runOn_bind_of_ok {a : Act α} {k : α → Act β} {j j' : Junction} {x : α} (h : a.runOn j = (.ok x, j')) :
    (a >>= k).runOn j = (k x).runOn j' := by
  rw [runOn_bind, h]

theorem runOn_bind_of_error {a : Act α} {k : α → Act β} {j j' : Junction} {f : Fault}
    (h : a.runOn j = (.error f, j')) : (a >>= k).runOn j = (.error f, j') := by
  rw [runOn_bind, h]

theorem runOn_bind_eq_ok {a : Act α} {k : α → Act β} {j i : Junction} {y : β} :
    (a >>= k).runOn j = (.ok y, i) ↔ ∃ x j', a.runOn j = (.ok x, j') ∧ (k x).runOn j' = (.ok y, i) := by
  rw [runOn_bind]
  rcases a.runOn j with ⟨f | x, j'⟩
  · exact ⟨nofun, by rintro ⟨x, j', h, -⟩; cases h⟩
  · exact ⟨fun h => ⟨x, j', rfl, h⟩, by rintro ⟨x, j', h, hk⟩; cases h; exact hk⟩

/-! ## Parts of the junction -/

def onLane (l : Lane) (f : Approach → Approach) : Act Unit :=
  modify (fun j => { j with lanes := j.lanes.modify l f })

def tryOnLane (l : Lane) (f : Approach → Except TrafficError Approach) : Act Unit := do
  let a ← ofExcept (f ((← get).lanes.get l))
  modify (fun j => { j with lanes := j.lanes.set l a })

def onScheduler (f : Scheduler → Scheduler) : Act Unit := modify (fun j => { j with scheduler := f j.scheduler })

def onMetrics (f : Metrics → Metrics) : Act Unit := modify (fun j => { j with metrics := f j.metrics })

def onAllocator (f : Allocator → α × Allocator) : Act α :=
  modifyGet (fun j => ((f j.allocator).1, { j with allocator := (f j.allocator).2 }))

def onEmergencies (f : Emergencies → α × Emergencies) : Act α :=
  modifyGet (fun j => ((f j.emergencies).1, { j with emergencies := (f j.emergencies).2 }))

/-- Reports a violation; a strict monitor halts the action that reports it. -/
def report (v : Violation) : Act Unit := do
  let (answer, monitor) := (← get).monitor.report v
  modify ({ · with monitor })
  if let .error v := answer then throw (.halted v)

/-- Sleeps, unless a stop was requested; answers whether the simulation still runs. -/
def sleep (ms : Nat) : Act Bool :=
  modifyGet (fun j => (!j.stopped, if j.stopped then j else { j with clock := j.clock + ms }))

@[simp] theorem runOn_onAllocator (f : Allocator → α × Allocator) (j : Junction) :
    (onAllocator f).runOn j = (.ok (f j.allocator).1, { j with allocator := (f j.allocator).2 }) := rfl

@[simp] theorem runOn_onEmergencies (f : Emergencies → α × Emergencies) (j : Junction) :
    (onEmergencies f).runOn j = (.ok (f j.emergencies).1, { j with emergencies := (f j.emergencies).2 }) := rfl

@[simp] theorem runOn_sleep (ms : Nat) (j : Junction) :
    (sleep ms).runOn j = (.ok (!j.stopped), if j.stopped then j else { j with clock := j.clock + ms }) := rfl

@[simp] theorem runOn_onLane (l : Lane) (f : Approach → Approach) (j : Junction) :
    (onLane l f).runOn j = (.ok (), { j with lanes := j.lanes.set l (f (j.lanes.get l)) }) := rfl

@[simp] theorem runOn_onMetrics (f : Metrics → Metrics) (j : Junction) :
    (onMetrics f).runOn j = (.ok (), { j with metrics := f j.metrics }) := rfl

theorem runOn_tryOnLane (l : Lane) (f : Approach → Except TrafficError Approach) (j : Junction) :
    (tryOnLane l f).runOn j = match f (j.lanes.get l) with
      | .ok a    => (.ok (), { j with lanes := j.lanes.set l a })
      | .error e => (.error (.refused e), j) := by
  unfold tryOnLane
  rw [runOn_bind, runOn_get]
  show ((ofExcept (f (j.lanes.get l))) >>= _).runOn j = _
  rw [runOn_bind]
  cases f (j.lanes.get l) <;> rfl

theorem runOn_report (v : Violation) (j : Junction) :
    (report v).runOn j = (if j.monitor.strict then .error (.halted v) else .ok (),
      { j with monitor := j.monitor.record v }) := by
  rw [report, runOn_bind, runOn_get]
  simp only [Monitor.report]
  cases j.monitor.strict <;> rfl

end Act

/-- Checks that a layer may be locked under the held ones; a breach is reported. -/
def checkLayer (held : HeldLayers) (wanted : Layer) : Act Unit :=
  match held.obstacle wanted with
  | some h => Act.report (wanted.breach h)
  | none => pure ()

theorem checkLayer_eq_pure {held : HeldLayers} {wanted : Layer} (h : held.obstacle wanted = none) :
    checkLayer held wanted = pure () := by
  rw [checkLayer, h]

namespace Junction

def laneSnapshots (j : Junction) : PerLane LaneSnapshot := .ofFn (fun l => (j.lanes.get l).snapshot l)

def snapshot (j : Junction) : SystemSnapshot where
  lanes := j.laneSnapshots
  current := j.scheduler.current
  tick := j.scheduler.tick

def waitForGraph (j : Junction) : WaitForGraph := .build j.laneSnapshots j.allocator.snapshot

def runningLanes (j : Junction) : List Lane := Lane.all.filter (fun l => (j.lanes.get l).state = .running)

def isBlocked (j : Junction) (l : Lane) : Bool := (j.lanes.get l).state = .blocked

end Junction

end Crossroads
