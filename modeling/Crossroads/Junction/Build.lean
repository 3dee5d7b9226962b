import Crossroads.Junction
/-!
# Setting up a junction

A junction is built from a configuration, which is normalized and checked first; some of what the configuration says
can be given otherwise.
-/
namespace Crossroads

structure Blueprint where
  config : Config
  /-- A monitor's strictness, in place of the configuration's. -/
  monitorStrict : Option Bool := none
  timing : Option ArrivalTiming := none
  priorities : PerLane Nat := .replicate normalPriority

namespace Blueprint

def strict (b : Blueprint) : Blueprint := { b with config := { b.config with strictInvariants := true } }

def assemble (b : Blueprint) (config : Config) (now : Nat) : Junction where
  config := config
  timing := b.timing.getD (.ofConfig config)
  settings := config.settings
  strategy := config.victimStrategy
  lanes := .ofFn (fun l => .fresh config.queueCapacity (b.priorities.get l) now)
  scheduler := .fresh config.initialPolicy config.settings
  metrics := { startedMs := now }
  monitor := { strict := b.monitorStrict.getD config.strictInvariants }
  clock := now

def build (b : Blueprint) (now : Nat) : Except TrafficError Junction :=
  match b.config.normalized.validate with
  | .error rule => .error (.initializationFailure (.badConfig rule.message))
  | .ok ()      => .ok (b.assemble b.config.normalized now)

end Blueprint

/-- The parts of a junction, given one by one and taken as they are. -/
structure Parts where
  policy : Policy
  settings : Settings := {}
  capacities : PerLane Nat := .replicate 20
  priorities : PerLane Nat := .replicate normalPriority
  quadrants : Nat := totalQuadrants
  strategy : VictimStrategy := .smallestAllocation
  strict : Bool := false

def Parts.assemble (p : Parts) (now : Nat) : Junction where
  config := {}
  timing := .ofConfig {}
  settings := p.settings
  strategy := p.strategy
  lanes := .ofFn (fun l => .fresh (p.capacities.get l) (p.priorities.get l) now)
  scheduler := .fresh p.policy p.settings
  allocator := { total := p.quadrants }
  metrics := { startedMs := now }
  monitor := { strict := p.strict }
  clock := now

end Crossroads
