import Crossroads.Operation
import Crossroads.Status
/-!
# Sessions

A session runs a junction with several workers side by side: one for each lane, one that lets vehicles arrive, one that
carries out commands and takes steps, and one that publishes statuses.  Each does one turn, sleeps for its period, and
comes back.  Here the workers take turns by the time at which they wake, the one that was started first going first.
Time is counted in beats, of which as many make a millisecond as the goals of the session need, and a turn takes at
least one.
-/
namespace Crossroads

open Act

inductive Worker where
  | lane (l : Lane)
  | generator
  | driver
  | status
deriving DecidableEq

namespace Worker

def name : Worker → String
  | lane .north => "lane-north"
  | lane .south => "lane-south"
  | lane .east  => "lane-east"
  | lane .west  => "lane-west"
  | generator   => "generator"
  | driver      => "driver"
  | status      => "status"

def all : List Worker := Lane.all.map lane ++ [generator, driver, status]

end Worker

structure Session where
  junction : Junction
  commands : List Command
  pace : Nat
  /-- The live workers, with the beat of each one's next turn, counted from the start. -/
  wakes : List (Worker × Nat)
  halted : List Worker := []
  published : Nat := 0
  reader : StatusReader := {}
  /-- The arrival that the generator sleeps for; none if its delay cannot be counted, which halts the generator. -/
  coming : Option ArrivalDraw
  source : UInt64
  startMs : Nat

namespace Session

def drawArrival (j : Junction) (source : UInt64) : Option ArrivalDraw × UInt64 :=
  match ArrivalGenerator.next mixSampler j.timing j.config.emergencyProbability source with
  | some (arrival, source) => (some arrival, source)
  | none                   => (none, source)

def beats (pace ms : Nat) : Nat := max 1 (ms * pace)

/-- Starts the workers on a junction.  The generator sleeps first. -/
def start (pace : Nat) (j : Junction) (commands : List Command) : Session :=
  let (coming, source) := drawArrival j ((j.config.seed.getD 0) : Nat).toUInt64
  { junction := j
    commands := commands
    pace := pace
    wakes := Worker.all.map (fun w => (w, if w = .generator then coming.elim 0 (beats pace ·.delayMs) else 0))
    coming := coming
    source := source
    startMs := j.clock }

/-- Carries out commands in their order.  A refused command changes nothing that stays; a halt is passed on. -/
def applyCommands : List Command → Junction → Option Fault × Junction
  | [], j => (none, j)
  | c :: cs, j =>
    match c.apply.runOn j with
    | (.error (.halted v), j) => (some (.halted v), j)
    | (_, j) => applyCommands cs j

/-- One turn of the driver: the waiting commands, and a step if the session still runs; answers whether it was halted. -/
def driveOnce (commands : List Command) (j : Junction) : Bool × Junction :=
  match applyCommands commands j with
  | (some _, j) => (true, j)
  | (none, j) =>
    if j.stopped then (false, j)
    else if 1000 * j.config.duration ≤ j.clock - j.metrics.startedMs then (false, { j with stopped := true })
    else match step.runOn j with
      | (.error (.halted _), j) => (true, j)
      | (_, j) => (false, j)

def period (c : Config) : Worker → Nat
  | .lane _ => c.laneTickMs
  | .driver => c.tickIntervalMs
  | .status => c.statusIntervalMs
  | .generator => 0

/-- One turn of a worker; answers for how many milliseconds it was busy or sleeps, or nothing if it was halted. -/
def turn (s : Session) (w : Worker) : Option Nat × Session :=
  let rest := period s.junction.config w
  match w with
  | .lane l =>
    if s.junction.paused then (some rest, s)
    else (some rest, { s with junction := ((tickLane l).runOn s.junction).2 })
  | .status =>
    let (_, reader) := s.reader.poll {} s.junction
    (some rest, { s with reader := reader, published := s.published + 1 })
  | .driver =>
    let (halted, j) := driveOnce s.commands s.junction
    let s' := { s with commands := [], junction := j }
    if halted then (none, s') else (some (rest + (j.clock - s.junction.clock)), s')
  | .generator =>
    match s.coming with
    | none => (none, s)
    | some arrival =>
      let (coming, source) := drawArrival s.junction s.source
      let s' := { s with coming := coming, source := source }
      let delay := coming.map (·.delayMs)
      if s.junction.paused then (delay, s')
      else
        let arrive := generateArrival arrival.lane arrival.emergency
        (delay, { s' with junction := (arrive.runOn s.junction).2 })

def nextWorker (s : Session) : Option (Worker × Nat) := firstLeast? (fun a b => compare a.2 b.2) s.wakes

def advance (s : Session) (w : Worker) (beat : Nat) : Session :=
  match turn { s with junction := { s.junction with clock := s.startMs + beat / s.pace } } w with
  | (some ms, s') =>
    { s' with wakes := s'.wakes.map (fun p => if p.1 = w then (w, beat + beats s.pace ms) else p) }
  | (none, s') => { s' with wakes := s'.wakes.filter (fun p => p.1 ≠ w), halted := s'.halted ++ [w] }

structure Goals where
  generated : Nat := 0
  processed : Nat := 0
  violations : Nat := 0
  published : Nat := 0
  waiting : Nat := 0
  stopped : Bool := false

def reached (s : Session) (g : Goals) : Bool :=
  g.generated ≤ s.junction.metrics.totalGenerated &&
  g.processed ≤ s.junction.metrics.totalProcessed &&
  g.violations ≤ s.junction.monitor.count &&
  g.published ≤ s.published &&
  g.waiting ≤ ((s.junction.lanes.toList.map (·.waitingTime)).max?).getD 0 &&
  (!g.stopped || s.junction.stopped)

def patience : Nat := 5000

/-- The beats of a millisecond: so many that a worker without a period takes as many turns in a second as a goal
counts. -/
def Goals.pace (g : Goals) : Nat :=
  1 + ([g.generated, g.processed, g.violations, g.published, g.waiting].foldl max 0) / 1000

def Goals.mostTurns (g : Goals) : Nat := Worker.all.length * (patience * g.pace + 1)

/-- Lets the workers take turns until the goals are reached or were waited for long enough, so many turns at most. -/
def runUntil (g : Goals) : Nat → Session → Session
  | 0, s => s
  | turns + 1, s =>
    if s.reached g then s
    else match s.nextWorker with
      | none => s
      | some (w, beat) => if patience * s.pace < beat then s else runUntil g turns (s.advance w beat)

/-- Stops a session.  Every worker ends its turn, and a last status is published. -/
def stop (s : Session) : Session :=
  { s with junction := { s.junction with stopped := true }, published := s.published + 1 }

def exitCode (s : Session) : Nat := if s.halted.isEmpty then 0 else 1

end Session

/-- What a session is to do: the vehicles that are admitted before it starts, the lanes that are put into the crossing,
whether it starts paused, the commands it is given, and what is waited for before it is stopped. -/
structure SessionPlan where
  arrivals : List (Lane × Option EmergencyKind) := []
  running : List Lane := []
  pauseFirst : Bool := false
  commands : List Command := []
  drain : Bool := false
  goals : Session.Goals := {}

namespace SessionPlan

def prepare (p : SessionPlan) (j : Junction) : Junction :=
  j.after (p.arrivals.map (fun a => .arrive a.1 a.2) ++ p.running.map (fun l => .setState l .running) ++
    (if p.pauseFirst then [.pause] else []))

def goalsFrom (p : SessionPlan) (j : Junction) : Session.Goals :=
  let admitted := j.metrics.totalGenerated - j.metrics.queueOverflows
  if p.drain then { p.goals with processed := max p.goals.processed admitted } else p.goals

def run (p : SessionPlan) (j : Junction) : Bool × Session :=
  let j := p.prepare j
  let goals := p.goalsFrom j
  let s := Session.runUntil goals goals.mostTurns (Session.start goals.pace j p.commands)
  (s.reached goals, s.stop)

end SessionPlan

end Crossroads
