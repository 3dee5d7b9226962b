import Crossroads.Junction.Pass
import Crossroads.Routine
/-!
# Switches and passes as routines

A scheduling pass and a swap of the policy hold the scheduler's lock throughout.  The lanes are read and changed one at
a time under it, so a lane may have changed again by the time that the switch comes to it.
-/
namespace Crossroads
namespace Routine

open Act

def laneState (l : Lane) : Routine LaneState := locked (.lane l) (look (fun j => (j.lanes.get l).state))

def demote (l : Lane) : Routine Unit := locked (.lane l) (Crossroads.demote l)

def promote (l : Lane) (forced : Bool) : Routine Bool := locked (.lane l) (Crossroads.promote l forced)

/-- The lanes are asked one after the other whether they run. -/
def checkMutualExclusion : Routine Unit := do
  let states ← perLane laneState
  let running := Lane.all.filter (fun l => states.get l = .running)
  if 1 < running.length then act (do
    report (.running running)
    refuse (.invariantViolation (Violation.running running).detail))

def demoteSource (source : Option Lane) (target : Lane) : Routine Unit :=
  match source.filter (· ≠ target) with
  | some l => demote l
  | none => pure ()

def settleSwitch (target : Lane) : Routine Unit := do
  act (onScheduler (fun s =>
    { s with current := some target, sliceCount := 0, contextSwitches := s.contextSwitches + 1 }))
  let overheadMs ← act (look (·.settings.contextSwitchMs))
  locked .metrics (onMetrics (fun m => m.recordContextSwitch overheadMs))
  checkMutualExclusion

def contextSwitch (source : Option Lane) (target : Lane) (forced : Bool) : Routine Bool := do
  demoteSource source target
  if ← promote target forced then
    settleSwitch target
    return true
  else
    act (onScheduler (fun s => { s with current := none }))
    return false

def swapPolicy (p : Policy) : Routine Unit := under .scheduler do
  act (onScheduler (fun s => { s with policy := p, current := none, sliceCount := 0, readyQueue := [] }))
  Lane.all.forM demote

/-! ## Passes -/

def preempt (target : Lane) : Routine Decision := do
  let current ← act (look (·.scheduler.current))
  let state ← laneState target
  if state = .running then
    act (onScheduler (fun s => { s with current := some target }))
    return .keep target
  else
    discard (contextSwitch current target true)
    return .switch current target true

def handOver (running : Option Lane) (target : Lane) : Routine Decision := do
  let current ← act (look (·.scheduler.current))
  let source := running.orElse (fun _ => current)
  if ← contextSwitch source target false then return .switch source target false
  else return match running with
    | some l => .keep l
    | none => .idle

/-- What the policy sees: the lanes as they are read one after the other. -/
def snapshot : Routine SystemSnapshot := do
  let lanes ← perLane (fun l => locked (.lane l) (look (fun j => (j.lanes.get l).snapshot l)))
  let scheduler ← act (look (·.scheduler))
  return { lanes := lanes, current := scheduler.current, tick := scheduler.tick }

def followChoice (running : Option Lane) : Option Lane → Routine Decision
  | some target => if running = some target then act (keepRunning running) else handOver running target
  | none => act (keepRunning running)

def passByPolicy : Routine Decision := do
  let view ← snapshot
  act (onScheduler (fun s => { s with readyQueue := Scheduler.readyByArrival view }))
  let running := view.firstRunning.map (·.lane)
  let within ← act (look (·.withinQuantum))
  if running.isSome && within then act (keepRunning running)
  else
    let choice ← act (look (fun j => j.scheduler.policy.choose j.settings.policyParams view))
    followChoice running choice

/-- The emergency a pass serves, given which lanes were blocked when they were asked. -/
def dueEmergency : Routine (Option EmergencyEvent) := do
  let blocked ← perLane (fun l => locked (.lane l) (look (·.isBlocked l)))
  locked .emergencies (look (·.emergencies.nextWhere (fun l => !blocked.get l)))

def serveDue : Option EmergencyEvent → Routine Decision
  | some event => preempt event.lane
  | none => passByPolicy

def scheduleNext : Routine Decision := under .scheduler do
  act (onScheduler (fun s => { s with tick := s.tick + 1 }))
  let due ← dueEmergency
  serveDue due

/-! ## Carried out alone -/

variable {held : HeldLayers}

theorem promote_does (h : held.obstacle .lane = none) (l : Lane) (forced : Bool) :
    (promote l forced).Does held (Crossroads.promote l forced) := .locked h

theorem checkMutualExclusion_does (h : held.obstacle .lane = none) :
    checkMutualExclusion.Does held Crossroads.checkMutualExclusion := by
  refine (Does.bind (.perLane h _) (b := fun states =>
    let running := Lane.all.filter (fun l => states.get l = .running)
    if 1 < running.length then do
      report (.running running)
      refuse (.invariantViolation (Violation.running running).detail)
    else pure ()) fun states => ?_).congr (Act.ext fun j => ?_)
  · dsimp only
    split
    · exact .act _
    · exact .pure _
  · simp only [Crossroads.checkMutualExclusion, runOn_bind, runOn_look, runOn_get, PerLane.get_ofFn]
    rfl

theorem demoteSource_does (h : held.obstacle .lane = none) (source : Option Lane) (target : Lane) :
    (demoteSource source target).Does held
      (match source.filter (· ≠ target) with
        | some l => Crossroads.demote l
        | none => pure ()) := by
  unfold demoteSource
  cases source.filter (· ≠ target) with
  | some l => exact .locked h
  | none => exact .pure _

theorem settleSwitch_does (h : held.obstacle .lane = none) (hm : held.obstacle .metrics = none) (target : Lane) :
    (settleSwitch target).Does held (do
      onScheduler (fun s =>
        { s with current := some target, sliceCount := 0, contextSwitches := s.contextSwitches + 1 })
      let overheadMs ← look (·.settings.contextSwitchMs)
      onMetrics (fun m => m.recordContextSwitch overheadMs)
      Crossroads.checkMutualExclusion) :=
  .bind (.act _) fun _ => .bind (.act _) fun _ => .bind (.locked hm) fun _ => checkMutualExclusion_does h

theorem contextSwitch_does (h : held.obstacle .lane = none) (hm : held.obstacle .metrics = none) (source : Option Lane)
    (target : Lane) (forced : Bool) :
    (contextSwitch source target forced).Does held (Crossroads.contextSwitch source target forced) := by
  refine (Does.bind (demoteSource_does h source target) fun _ => .bind (promote_does h target forced) fun _ => .ite
    (.bind (settleSwitch_does h hm target) fun _ => .pure _) (.bind (.act _) fun _ => .pure _)).congr ?_
  unfold Crossroads.contextSwitch
  cases source.filter (· ≠ target) with
  | none => rfl
  | some l => rfl

theorem swapPolicy_does (p : Policy) : (swapPolicy p).Does [] (Crossroads.swapPolicy p) :=
  .under rfl (.bind (.act _) fun _ => .forM (fun _ => .locked rfl) Lane.all)

theorem preempt_does (target : Lane) : (preempt target).Does [.scheduler] (Crossroads.preempt target) := by
  refine (Does.bind (.act _) fun current => .bind (.locked rfl) fun state => .ite
    (.bind (.act _) fun _ => .pure _)
    (.bind (.bind (contextSwitch_does rfl rfl current target true) fun _ => .pure _) fun _ => .pure _)).congr ?_
  rfl

theorem handOver_does (running : Option Lane) (target : Lane) :
    (handOver running target).Does [.scheduler] (Crossroads.handOver running target) :=
  .bind (.act _) fun _ => .bind (contextSwitch_does rfl rfl _ _ _) fun _ => .ite (.pure _) (.pure _)

theorem snapshot_does (h : held.obstacle .lane = none) : snapshot.Does held (look Junction.snapshot) :=
  (Does.bind (.perLane h _) fun _ => .bind (.act _) fun _ => .pure _).congr rfl

theorem followChoice_does (running choice : Option Lane) :
    (followChoice running choice).Does [.scheduler] (Crossroads.followChoice running choice) := by
  cases choice with
  | some target => exact .ite (.act _) (handOver_does _ target)
  | none => exact .act _

theorem passByPolicy_does : passByPolicy.Does [.scheduler] Crossroads.passByPolicy := by
  refine (Does.bind (snapshot_does rfl) fun view => .bind (.act _) fun _ => .bind (.act _) fun within => .ite (.act _)
    (.bind (.act _) fun choice => followChoice_does _ choice)).congr (Act.ext fun j => ?_)
  have hwithin : ∀ s : List Lane,
      ({ j with scheduler := { j.scheduler with readyQueue := s } } : Junction).withinQuantum = j.withinQuantum :=
    fun _ => rfl
  simp only [Crossroads.passByPolicy, runOn_bind, runOn_look, runOn_get, onScheduler, runOn_modify]
  rw [hwithin]
  split
  · rfl
  · simp only [runOn_bind, runOn_look]

theorem dueEmergency_does : dueEmergency.Does [.scheduler] (look Junction.dueEmergency) := by
  refine (Does.bind (.perLane rfl _) fun _ => .locked rfl).congr (Act.ext fun j => ?_)
  simp only [runOn_bind, runOn_look, PerLane.get_ofFn]
  rfl

theorem serveDue_does (due : Option EmergencyEvent) : (serveDue due).Does [.scheduler] (Crossroads.serveDue due) := by
  cases due with
  | some event => exact preempt_does event.lane
  | none => exact passByPolicy_does

theorem scheduleNext_does : scheduleNext.Does [] Crossroads.scheduleNext :=
  (Does.under rfl (.bind (.act _) fun _ => .bind dueEmergency_does serveDue_does)).congr rfl

end Routine
end Crossroads
