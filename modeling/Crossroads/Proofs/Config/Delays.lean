import Crossroads.Proofs.Config.Normal
/-!
# Delays between arrivals

The arrival bounds of a configuration are seconds without an upper limit.  In milliseconds they are held to what can be
counted, and the jitter comes on top of that.  So the bounds of the delays always rise, but the longest delay can be
counted only if the bounds leave room for the jitter.  Then, and only then, every delay is drawn, within its bounds
(`Config.delays_counted_iff`).
-/
namespace Crossroads

open ArrivalTiming (ofConfig secondsToMs configJitterMs)

/-- The largest arrival bound that leaves room for the jitter, in seconds. -/
def longestArrivalSecs : Int := 18446744073709550

namespace ArrivalTiming

variable {t : ArrivalTiming} {a b secs : Int}

/-- Whatever is drawn, there is a delay and it lies within the bounds of the timing. -/
def DrawsWithin (t : ArrivalTiming) : Prop :=
  ∀ {σ : Type} {draw : Sampler σ}, Sampler.InRange draw → ∀ s, ∃ delayMs s',
    ArrivalGenerator.nextDelay draw t s = some (delayMs, s') ∧ t.minMs ≤ delayMs ∧ delayMs ≤ t.maxMs + t.jitterMs

theorem maxDelayMs?_eq_some_iff : t.maxDelayMs? = some (t.maxMs + t.jitterMs) ↔ t.maxMs + t.jitterMs ≤ longestMs := by
  simp [maxDelayMs?, addMs?]

/-- A timing has every delay exactly if its longest one can be counted: a sampler may answer the upper bounds. -/
theorem drawsWithin_iff (h : t.minMs ≤ t.maxMs) : t.DrawsWithin ↔ t.maxMs + t.jitterMs ≤ longestMs := by
  constructor
  · intro hdraws
    have hgreatest : Sampler.InRange (fun _ hi (s : Unit) => (hi, s)) := fun _ _ _ hle => ⟨hle, Nat.le_refl _⟩
    obtain ⟨delayMs, s', hdelay, -⟩ := hdraws hgreatest ()
    refine Nat.not_lt.1 fun hover => ?_
    have hsum : addMs? t.maxMs t.jitterMs = none := if_neg (Nat.not_le.2 hover)
    rw [ArrivalGenerator.nextDelay_eq, hsum] at hdelay
    cases hdelay
  · intro hfits _ draw hrange s
    exact ArrivalGenerator.nextDelay_bounds hrange h (maxDelayMs?_eq_some_iff.2 hfits) s

theorem secondsToMs_of_pos (h : 1 ≤ secs) : secondsToMs secs = min (secs.toNat * 1000) longestMs := by
  rw [secondsToMs, if_neg (by omega)]

theorem secondsToMs_mono (ha : 1 ≤ a) (hab : a ≤ b) : secondsToMs a ≤ secondsToMs b := by
  rw [secondsToMs_of_pos ha, secondsToMs_of_pos (Int.le_trans ha hab)]
  omega

/-- Seconds leave room for the jitter exactly up to the largest bound. -/
theorem secondsToMs_add_jitter_le_iff (h : 1 ≤ secs) :
    secondsToMs secs + configJitterMs ≤ longestMs ↔ secs ≤ longestArrivalSecs := by
  rw [secondsToMs_of_pos h]
  simp only [configJitterMs, longestMs, longestArrivalSecs]
  omega

end ArrivalTiming

theorem Config.Normal.ofConfig_eq {c : Config} (h : c.Normal) :
    ofConfig c = ⟨secondsToMs c.minArrivalSecs, secondsToMs c.maxArrivalSecs, configJitterMs⟩ :=
  if_neg (Nat.not_lt.2 (ArrivalTiming.secondsToMs_mono h.arrival_pos h.arrival_le))

/-- **The delays of a configuration keep to their bounds exactly if the larger arrival bound leaves room for the
jitter.**  The bounds rise in any case. -/
theorem Config.delays_counted_iff (c : Config) :
    (ofConfig c.normalized).minMs ≤ (ofConfig c.normalized).maxMs ∧
      ((ofConfig c.normalized).maxDelayMs? = some ((ofConfig c.normalized).maxMs + (ofConfig c.normalized).jitterMs) ↔
        c.normalized.maxArrivalSecs ≤ longestArrivalSecs) ∧
      ((ofConfig c.normalized).DrawsWithin ↔ c.normalized.maxArrivalSecs ≤ longestArrivalSecs) := by
  have hnormal := c.normal_normalized
  have hrises : (ofConfig c.normalized).minMs ≤ (ofConfig c.normalized).maxMs := ArrivalTiming.ofMillis_le _ _ _
  have hroom : (ofConfig c.normalized).maxMs + (ofConfig c.normalized).jitterMs ≤ longestMs ↔
      c.normalized.maxArrivalSecs ≤ longestArrivalSecs := by
    rw [hnormal.ofConfig_eq]
    exact ArrivalTiming.secondsToMs_add_jitter_le_iff (Int.le_trans hnormal.arrival_pos hnormal.arrival_le)
  exact ⟨hrises, ArrivalTiming.maxDelayMs?_eq_some_iff.trans hroom, (ArrivalTiming.drawsWithin_iff hrises).trans hroom⟩

/-- With the largest bound of 64 bits the longest delay cannot be counted. -/
theorem Config.longest_delay_uncounted :
    ofConfig ({ maxArrivalSecs := 9223372036854775807 } : Config).normalized = ⟨3000, 18446744073709551615, 999⟩ ∧
      (ofConfig ({ maxArrivalSecs := 9223372036854775807 } : Config).normalized).maxDelayMs? = none := by
  decide +kernel

end Crossroads
