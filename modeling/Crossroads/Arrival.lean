import Crossroads.Config
import Crossroads.Emergency
/-!
# Arrivals

Vehicles arrive after random delays, on random lanes, and now and then on an emergency call.  What is random comes from
a sampler, any function that answers a number of the range it is asked for.  Delays are counted in 64 bits, and a sum
that does not fit into them is no delay; if the longest delay of a timing fits, every delay is drawn and lies within the
bounds of the timing (`ArrivalGenerator.nextDelay_bounds`).
-/
namespace Crossroads

/-- The longest time that is counted, in milliseconds: the largest number of 64 bits. -/
def longestMs : Nat := 18446744073709551615

def addMs? (a b : Nat) : Option Nat := if a + b ≤ longestMs then some (a + b) else none

theorem addMs?_of_le {a b : Nat} (h : a + b ≤ longestMs) : addMs? a b = some (a + b) := if_pos h

/-- The bounds of the time between arrivals, with a jitter on top. -/
structure ArrivalTiming where
  minMs : Nat
  maxMs : Nat
  jitterMs : Nat
deriving DecidableEq

namespace ArrivalTiming

def configJitterMs : Nat := 999

def ofMillis (a b jitterMs : Nat) : ArrivalTiming := if b < a then ⟨b, a, jitterMs⟩ else ⟨a, b, jitterMs⟩

/-- Seconds in milliseconds, held to what is counted; a negative number counts as one second. -/
def secondsToMs (secs : Int) : Nat := min ((if secs < 0 then 1 else secs.toNat) * 1000) longestMs

def ofConfig (c : Config) : ArrivalTiming :=
  ofMillis (secondsToMs c.minArrivalSecs) (secondsToMs c.maxArrivalSecs) configJitterMs

def maxDelayMs? (t : ArrivalTiming) : Option Nat := addMs? t.maxMs t.jitterMs

theorem ofMillis_le (a b j : Nat) : (ofMillis a b j).minMs ≤ (ofMillis a b j).maxMs := by
  unfold ofMillis
  split
  · simp only; omega
  · simp only; omega

end ArrivalTiming

/-- A source of random numbers: given an inclusive range, a number and the source's next state. -/
abbrev Sampler (σ : Type) := Nat → Nat → σ → Nat × σ

def Sampler.InRange {σ : Type} (draw : Sampler σ) : Prop :=
  ∀ lo hi s, lo ≤ hi → lo ≤ (draw lo hi s).1 ∧ (draw lo hi s).1 ≤ hi

structure ArrivalDraw where
  delayMs : Nat
  lane : Lane
  emergency : Option EmergencyKind
deriving DecidableEq

namespace ArrivalGenerator

variable {σ : Type} (draw : Sampler σ)

/-- The delay before the next arrival: a base within the bounds, and some jitter.  There is none if their sum cannot be
counted. -/
def nextDelay (t : ArrivalTiming) (s : σ) : Option (Nat × σ) :=
  let (base, s) := draw t.minMs t.maxMs s
  let (jitter, s) := draw 0 t.jitterMs s
  (addMs? base jitter).map (·, s)

def nextLane (s : σ) : Lane × σ :=
  let (i, s) := draw 0 3 s
  ((Lane.ofIndex? i).getD .west, s)

/-- Whether the next arrival is an emergency: one in so many is, of any kind; none if the number is zero. -/
def nextEmergency (oneIn : Nat) (s : σ) : Option EmergencyKind × σ :=
  if oneIn = 0 then (none, s)
  else
    let (ticket, s) := draw 1 oneIn s
    if ticket = 1 then
      let (k, s) := draw 0 2 s
      (some (match k with
        | 0 => .ambulance
        | 1 => .fireTruck
        | _ => .police), s)
    else (none, s)

def next (t : ArrivalTiming) (oneIn : Nat) (s : σ) : Option (ArrivalDraw × σ) := do
  let (delayMs, s) ← nextDelay draw t s
  let (lane, s) := nextLane draw s
  let (emergency, s) := nextEmergency draw oneIn s
  return ({ delayMs, lane, emergency }, s)

def draws (t : ArrivalTiming) (oneIn : Nat) : Nat → σ → Option (List ArrivalDraw)
  | 0, _ => some []
  | n + 1, s => do
    let (arrival, s) ← next draw t oneIn s
    return arrival :: (← draws t oneIn n s)

theorem nextDelay_eq (t : ArrivalTiming) (s : σ) :
    nextDelay draw t s = (addMs? (draw t.minMs t.maxMs s).1 (draw 0 t.jitterMs (draw t.minMs t.maxMs s).2).1).map
      (·, (draw 0 t.jitterMs (draw t.minMs t.maxMs s).2).2) := rfl

theorem nextDelay_bounds {draw : Sampler σ} (h : Sampler.InRange draw) {t : ArrivalTiming} (ht : t.minMs ≤ t.maxMs)
    {most : Nat} (hmost : t.maxDelayMs? = some most) (s : σ) :
    ∃ delayMs s', nextDelay draw t s = some (delayMs, s') ∧ t.minMs ≤ delayMs ∧ delayMs ≤ most := by
  have hbase := h t.minMs t.maxMs s ht
  have hjitter := h 0 t.jitterMs (draw t.minMs t.maxMs s).2 (Nat.zero_le _)
  obtain ⟨hfits, rfl⟩ : t.maxMs + t.jitterMs ≤ longestMs ∧ t.maxMs + t.jitterMs = most := by
    simpa [ArrivalTiming.maxDelayMs?, addMs?] using hmost
  have hsum := addMs?_of_le (Nat.le_trans (Nat.add_le_add hbase.2 hjitter.2) hfits)
  rw [nextDelay_eq, hsum]
  exact ⟨_, _, rfl, by omega, by omega⟩

end ArrivalGenerator

def mixBits (z : UInt64) : UInt64 :=
  let z := (z ^^^ (z >>> 30)) * 0xBF58476D1CE4E5B9
  let z := (z ^^^ (z >>> 27)) * 0x94D049BB133111EB
  z ^^^ (z >>> 31)

def mixSampler : Sampler UInt64 := fun lo hi s =>
  let s := s + 0x9E3779B97F4A7C15
  (lo + (mixBits s).toNat % (hi - lo + 1), s)

theorem mixSampler_inRange : Sampler.InRange mixSampler := by
  intro lo hi s h
  have hm := Nat.mod_lt (mixBits (s + (0x9E3779B97F4A7C15 : UInt64))).toNat (show 0 < hi - lo + 1 by omega)
  simp only [mixSampler]
  omega

/-! ## Surveys

What a run of drawn arrivals shows: whether the delays keep to the timing, and which lanes and kinds of emergency came
up.
-/

inductive EmergencyShare where
  | none
  | all
  | some
deriving DecidableEq

structure ArrivalSurvey where
  bounded : Bool
  lanesSeen : PerLane Bool
  emergencies : EmergencyShare
  kindsSeen : EmergencyKind → Bool

def ArrivalSurvey.of (t : ArrivalTiming) (draws : List ArrivalDraw) : ArrivalSurvey where
  bounded := draws.all (fun d => t.minMs ≤ d.delayMs && t.maxDelayMs?.any (d.delayMs ≤ ·))
  lanesSeen := .ofFn (fun l => draws.any (fun d => d.lane = l))
  emergencies :=
    if draws.all (fun d => d.emergency.isNone) then .none
    else if draws.all (fun d => d.emergency.isSome) then .all
    else .some
  kindsSeen := fun k => draws.any (fun d => d.emergency = some k)

/-- The delay of a timing that leaves nothing to chance. -/
def ArrivalTiming.fixedDelayMs (t : ArrivalTiming) : Option Nat :=
  if t.minMs = t.maxMs ∧ t.jitterMs = 0 then some t.minMs else none

end Crossroads
