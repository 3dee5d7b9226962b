import Crossroads.Junction
/-!
# Status

A status is put together without waiting for anything: a part of the junction that is busy at the moment is reported
as it was last seen, and marked as stale.
-/
namespace Crossroads

inductive Freshness where
  | fresh
  | stale
deriving DecidableEq

structure Observed (α : Type) where
  value : α
  freshness : Freshness
deriving BEq

def Observed.isFresh {α : Type} (o : Observed α) : Bool := o.freshness = .fresh

/-- The value of a part when it was last read, if it ever was. -/
structure LastKnown (α : Type) where
  value : Option α := none

/-- Takes in one attempt to read a part, where nothing means that it was busy. -/
def LastKnown.observe {α : Type} (k : LastKnown α) (attempt : Option α) : Option (Observed α) × LastKnown α :=
  match attempt with
  | some a => (some ⟨a, .fresh⟩, ⟨some a⟩)
  | none   => (k.value.map (fun a => ⟨a, .stale⟩), k)

structure Busy where
  lanes : PerLane Bool := .replicate false
  scheduler : Bool := false
  resources : Bool := false
  metrics : Bool := false
  emergencies : Bool := false
deriving DecidableEq

def attempt {α : Type} (busy : Bool) (a : α) : Option α := if busy then none else some a

structure StatusSnapshot where
  tick : Nat
  paused : Bool
  lanes : PerLane (Option (Observed LaneSnapshot))
  scheduler : Option (Observed SchedulerSnapshot)
  resources : Option (Observed ResourceSnapshot)
  metrics : Option (Observed MetricsSnapshot)
  pendingEmergencies : Option Nat
  violations : Nat
deriving BEq

namespace StatusSnapshot

def partFresh {α : Type} (part : Option (Observed α)) : Bool := part.any Observed.isFresh

/-- Whether the lanes, the scheduler, the quadrants and the counters were all read just now. -/
def isFullyFresh (s : StatusSnapshot) : Bool :=
  s.lanes.toList.all partFresh && partFresh s.scheduler && partFresh s.resources && partFresh s.metrics

inductive Part where
  | lane (l : Lane)
  | scheduler
  | resources
  | metrics
deriving DecidableEq

def age (s : StatusSnapshot) : Part → StatusSnapshot
  | .lane l    => { s with lanes := s.lanes.modify l (·.map ({ · with freshness := .stale })) }
  | .scheduler => { s with scheduler := s.scheduler.map ({ · with freshness := .stale }) }
  | .resources => { s with resources := s.resources.map ({ · with freshness := .stale }) }
  | .metrics   => { s with metrics := s.metrics.map ({ · with freshness := .stale }) }

def withhold (s : StatusSnapshot) : Part → StatusSnapshot
  | .lane l    => { s with lanes := s.lanes.set l none }
  | .scheduler => { s with scheduler := none }
  | .resources => { s with resources := none }
  | .metrics   => { s with metrics := none }

end StatusSnapshot

structure StatusReader where
  lanes : PerLane (LastKnown LaneSnapshot) := .replicate {}
  scheduler : LastKnown SchedulerSnapshot := {}
  resources : LastKnown ResourceSnapshot := {}
  metrics : LastKnown MetricsSnapshot := {}

namespace StatusReader

def observeLane (r : StatusReader) (busy : Busy) (j : Junction) (l : Lane) :
    Option (Observed LaneSnapshot) × LastKnown LaneSnapshot :=
  (r.lanes.get l).observe (attempt (busy.lanes.get l) (j.laneSnapshots.get l))

def poll (r : StatusReader) (busy : Busy) (j : Junction) : StatusSnapshot × StatusReader :=
  let scheduler := r.scheduler.observe (attempt busy.scheduler j.scheduler.snapshot)
  let resources := r.resources.observe (attempt busy.resources j.allocator.snapshot)
  let metrics := r.metrics.observe (attempt busy.metrics (j.metrics.snapshot j.clock))
  ({ tick := j.tick
     paused := j.paused
     lanes := .ofFn (fun l => (r.observeLane busy j l).1)
     scheduler := scheduler.1
     resources := resources.1
     metrics := metrics.1
     pendingEmergencies := attempt busy.emergencies j.emergencies.count
     violations := j.monitor.count },
   { lanes := .ofFn (fun l => (r.observeLane busy j l).2)
     scheduler := scheduler.2
     resources := resources.2
     metrics := metrics.2 })

end StatusReader

/-! ## Where statuses go -/

structure StatusLog where
  published : List StatusSnapshot := []

def StatusLog.publish (log : StatusLog) (s : StatusSnapshot) : StatusLog := ⟨log.published ++ [s]⟩

structure StatusBoard where
  latest : Option StatusSnapshot := none

def StatusBoard.publish (_ : StatusBoard) (s : StatusSnapshot) : StatusBoard := ⟨some s⟩

end Crossroads
