import Crossroads.Junction.Build
/-!
# Normal configurations

A configuration is normal if every value that has a range is in it.  Normalizing makes every configuration normal
(`normal_normalized`) and changes no normal one, so the normal configurations are those that it leaves alone
(`normalized_eq_self_iff`).  From this it follows that normalizing twice is normalizing once, and that a junction can be
built from any configuration (`normalized_usable`).

The check asks for the same values with one exception: it does not look at how large a quantum is
(`validate_eq_ok_iff`).  What it refuses is changed by normalizing, and there it names the first rule that is broken
(`validate_agrees`).
-/
namespace Crossroads

open Config (maxQuantum)

/-- A configuration with every value in its range. -/
structure Config.Normal (c : Config) : Prop where
  duration_ge : 10 ≤ c.durationSecs
  duration_le : c.durationSecs ≤ 3600
  arrival_pos : 1 ≤ c.minArrivalSecs
  arrival_le : c.minArrivalSecs ≤ c.maxArrivalSecs
  quantum_pos : 1 ≤ c.timeQuantum
  quantum_le : c.timeQuantum ≤ maxQuantum
  capacity_pos : 1 ≤ c.queueCapacity
  batch_pos : 1 ≤ c.batchSize
  interval_pos : 1 ≤ c.deadlockCheckInterval
  quadrants_pos : 1 ≤ c.quadrantsPerCrossing
  quadrants_le : c.quadrantsPerCrossing ≤ totalQuadrants
  levels_pos : 1 ≤ c.mlfqLevels

namespace Config

variable {c : Config} {a b secs q : Int} {m n : Nat}

/-! ## The ranges one by one -/

theorem clampDuration_bounds (secs : Int) : 10 ≤ clampDuration secs ∧ clampDuration secs ≤ 3600 := by
  unfold clampDuration
  grind

theorem clampDuration_of_bounds (hlo : 10 ≤ secs) (hhi : secs ≤ 3600) : clampDuration secs = secs := by
  unfold clampDuration
  grind

theorem orderArrivals_bounds (a b : Int) :
    1 ≤ (orderArrivals a b).1 ∧ (orderArrivals a b).1 ≤ (orderArrivals a b).2 := by
  unfold orderArrivals
  grind

theorem orderArrivals_of_pos (ha : 0 < a) (hb : 0 < b) : orderArrivals a b = if b < a then (b, a) else (a, b) := by
  unfold orderArrivals
  rw [if_neg (Int.not_le.2 ha), if_neg (Int.not_le.2 hb)]

theorem orderArrivals_of_le (ha : 0 < a) (hab : a ≤ b) : orderArrivals a b = (a, b) := by
  rw [orderArrivals_of_pos ha (Int.lt_of_lt_of_le ha hab), if_neg (Int.not_lt.2 hab)]

theorem clampQuantum_bounds (q : Int) : 1 ≤ clampQuantum q ∧ clampQuantum q ≤ maxQuantum := by
  unfold clampQuantum maxQuantum
  grind

theorem clampQuantum_of_bounds (hlo : 0 < q) (hhi : q ≤ maxQuantum) : clampQuantum q = q := by
  rw [clampQuantum, if_neg (Int.not_le.2 hlo), if_neg (Int.not_lt.2 hhi)]

theorem orDefault_pos (n : Nat) (hm : 0 < m) : 1 ≤ orDefault n m := by
  unfold orDefault
  grind

theorem orDefault_of_pos (hn : 0 < n) (m : Nat) : orDefault n m = n := by
  rw [orDefault, if_neg (Nat.ne_of_gt hn)]

/-- The quantum of the scheduler is a quantum in its range, without loss. -/
theorem schedulerQuantum_of_bounds (hlo : 0 ≤ q) (hhi : q ≤ maxQuantum) : (schedulerQuantum q : Int) = q := by
  rw [schedulerQuantum, if_pos ⟨hlo, hhi⟩, Int.toNat_of_nonneg hlo]

/-! ## Normalizing -/

theorem normal_normalized (c : Config) : c.normalized.Normal where
  duration_ge := (clampDuration_bounds _).1
  duration_le := (clampDuration_bounds _).2
  arrival_pos := (orderArrivals_bounds _ _).1
  arrival_le := (orderArrivals_bounds _ _).2
  quantum_pos := (clampQuantum_bounds _).1
  quantum_le := (clampQuantum_bounds _).2
  capacity_pos := orDefault_pos _ (by decide)
  batch_pos := orDefault_pos _ (by decide)
  interval_pos := orDefault_pos _ (by decide)
  quadrants_pos := by
    simp only [normalized]
    split <;> omega
  quadrants_le := by
    simp only [normalized]
    split
    · decide
    · omega
  levels_pos := orDefault_pos _ (by decide)

theorem Normal.normalized_eq (h : c.Normal) : c.normalized = c := by
  have harrivals := orderArrivals_of_le h.arrival_pos h.arrival_le
  have hquadrants : ¬ (c.quadrantsPerCrossing = 0 ∨ totalQuadrants < c.quadrantsPerCrossing) := by
    have hpos := h.quadrants_pos
    have hle := h.quadrants_le
    omega
  rw [normalized, clampDuration_of_bounds h.duration_ge h.duration_le, harrivals,
    clampQuantum_of_bounds h.quantum_pos h.quantum_le, orDefault_of_pos h.capacity_pos, orDefault_of_pos h.batch_pos,
    orDefault_of_pos h.interval_pos, if_neg hquadrants, orDefault_of_pos h.levels_pos]

/-- **Normalizing leaves a configuration alone exactly if it is normal.** -/
theorem normalized_eq_self_iff : c.normalized = c ↔ c.Normal :=
  ⟨fun h => h ▸ normal_normalized c, Normal.normalized_eq⟩

end Config

/-! ## The rules of the check -/

namespace ConfigRule

def all : List ConfigRule :=
  [durationRange, arrivalPositive, arrivalOrder, quantumPositive, capacityPositive, batchPositive, intervalPositive,
   quadrantRange, levelsPositive]

def values : ConfigRule → Config → List Int
  | durationRange, c => [c.durationSecs]
  | arrivalPositive, c | arrivalOrder, c => [c.minArrivalSecs, c.maxArrivalSecs]
  | quantumPositive, c => [c.timeQuantum]
  | capacityPositive, c => [c.queueCapacity]
  | batchPositive, c => [c.batchSize]
  | intervalPositive, c => [c.deadlockCheckInterval]
  | quadrantRange, c => [c.quadrantsPerCrossing]
  | levelsPositive, c => [c.mlfqLevels]

def broken : ConfigRule → Config → Bool
  | durationRange, c => c.durationSecs < 10 ∨ 3600 < c.durationSecs
  | arrivalPositive, c => c.minArrivalSecs ≤ 0 ∨ c.maxArrivalSecs ≤ 0
  | arrivalOrder, c => c.maxArrivalSecs < c.minArrivalSecs
  | quantumPositive, c => c.timeQuantum ≤ 0
  | capacityPositive, c => c.queueCapacity = 0
  | batchPositive, c => c.batchSize = 0
  | intervalPositive, c => c.deadlockCheckInterval = 0
  | quadrantRange, c => c.quadrantsPerCrossing = 0 ∨ totalQuadrants < c.quadrantsPerCrossing
  | levelsPositive, c => c.mlfqLevels = 0

theorem mem_all (rule : ConfigRule) : rule ∈ all := by
  cases rule <;> decide

theorem broken_congr {rule : ConfigRule} {c d : Config} (h : rule.values c = rule.values d) :
    rule.broken c = rule.broken d := by
  cases rule <;> simp only [values, List.cons.injEq, Int.ofNat_inj, and_true] at h <;> simp only [broken, h]

end ConfigRule

namespace Config

variable {c : Config} {rule : ConfigRule}

theorem firstBroken_eq_find? (c : Config) : c.firstBroken = ConfigRule.all.find? (·.broken c) := by
  have hcons : ∀ (rule : ConfigRule) (rules : List ConfigRule), (rule :: rules).find? (·.broken c) =
      if rule.broken c = true then some rule else rules.find? (·.broken c) := by
    intro rule rules
    rw [List.find?_cons]
    cases rule.broken c <;> rfl
  simp only [ConfigRule.all, hcons, List.find?_nil]
  simp only [ConfigRule.broken, decide_eq_true_eq, firstBroken]

theorem validate_eq_error_iff : c.validate = .error rule ↔ ConfigRule.all.find? (·.broken c) = some rule := by
  rw [validate, firstBroken_eq_find?]
  cases ConfigRule.all.find? (·.broken c) <;> simp

theorem validate_eq_ok_iff : c.validate = .ok () ↔ ∀ rule : ConfigRule, rule.broken c = false := by
  have hnone : ConfigRule.all.find? (·.broken c) = none ↔ ∀ rule : ConfigRule, rule.broken c = false := by
    simp [List.find?_eq_none, ConfigRule.mem_all]
  rw [validate, firstBroken_eq_find?, ← hnone]
  cases ConfigRule.all.find? (·.broken c) <;> simp

theorem Normal.broken_eq_false (h : c.Normal) (rule : ConfigRule) : rule.broken c = false := by
  obtain ⟨_, _, _, _, _, _, _, _, _, _, _, _⟩ := h
  cases rule <;> simp only [ConfigRule.broken, decide_eq_false_iff_not] <;> omega

/-- **The check asks for a normal configuration, but not for a quantum that can be counted to.** -/
theorem normal_iff : c.Normal ↔ c.validate = .ok () ∧ c.timeQuantum ≤ maxQuantum := by
  rw [validate_eq_ok_iff]
  refine ⟨fun h => ⟨h.broken_eq_false, h.quantum_le⟩, fun ⟨h, hquantum⟩ => ?_⟩
  have hduration := h .durationRange
  have harrivals := h .arrivalPositive
  have horder := h .arrivalOrder
  have hpositive := h .quantumPositive
  have hcapacity := h .capacityPositive
  have hbatch := h .batchPositive
  have hinterval := h .intervalPositive
  have hquadrants := h .quadrantRange
  have hlevels := h .levelsPositive
  simp only [ConfigRule.broken, decide_eq_false_iff_not] at *
  constructor <;> omega

theorem values_normalized_ne (h : c.validate = .error rule) : rule.values c.normalized ≠ rule.values c := by
  intro hvalues
  have hbroken : rule.broken c = true :=
    List.find?_some (p := fun r : ConfigRule => r.broken c) (validate_eq_error_iff.1 h)
  have hnormal := (normal_normalized c).broken_eq_false rule
  rw [ConfigRule.broken_congr hvalues, hbroken] at hnormal
  exact Bool.noConfusion hnormal

end Config

/-! ## Normalizing and the check -/

/-- What normalizing makes of a configuration. -/
structure Config.Normalizes (c n : Config) : Prop where
  settled : n.normalized = n
  accepted : n.validate = .ok ()
  normal : n.Normal
  /-- Only values that have a range are changed. -/
  kept : n = { c with
    durationSecs := n.durationSecs
    minArrivalSecs := n.minArrivalSecs
    maxArrivalSecs := n.maxArrivalSecs
    timeQuantum := n.timeQuantum
    queueCapacity := n.queueCapacity
    batchSize := n.batchSize
    deadlockCheckInterval := n.deadlockCheckInterval
    quadrantsPerCrossing := n.quadrantsPerCrossing
    mlfqLevels := n.mlfqLevels }
  /-- Arrival bounds that are positive are kept, and put into rising order. -/
  arrivals : 0 < c.minArrivalSecs → 0 < c.maxArrivalSecs → (n.minArrivalSecs, n.maxArrivalSecs) =
    if c.maxArrivalSecs < c.minArrivalSecs then (c.maxArrivalSecs, c.minArrivalSecs)
    else (c.minArrivalSecs, c.maxArrivalSecs)
  /-- The scheduler counts to the quantum without loss. -/
  counted : (n.settings.timeQuantum : Int) = n.timeQuantum

/-- **Every configuration can be used once it is normalized**: whatever its values are, a junction can be built from it,
with any monitor, arrival timing and priorities, and the junction has the normalized configuration. -/
theorem Config.normalized_usable (c : Config) : c.Normalizes c.normalized ∧
    ∀ (monitorStrict : Option Bool) (timing : Option ArrivalTiming) (priorities : PerLane Nat) (now : Nat),
      ∃ j, Blueprint.build ⟨c, monitorStrict, timing, priorities⟩ now = .ok j ∧ j.config = c.normalized ∧
        j.settings = c.normalized.settings := by
  have hnormal := normal_normalized c
  have hvalid : c.normalized.validate = .ok () := (normal_iff.1 hnormal).1
  have hbuild : ∀ b : Blueprint, b.config = c → ∀ now, b.build now = .ok (b.assemble c.normalized now) := by
    rintro b rfl now
    simp only [Blueprint.build, hvalid]
  refine ⟨⟨hnormal.normalized_eq, hvalid, hnormal, rfl, orderArrivals_of_pos, ?_⟩, ?_⟩
  · exact schedulerQuantum_of_bounds (Int.le_of_lt hnormal.quantum_pos) hnormal.quantum_le
  · intro monitorStrict timing priorities now
    exact ⟨_, hbuild _ rfl now, rfl, rfl⟩

/-- **Normalizing changes nothing exactly if the check accepts and the quantum can be counted to.**  What a refusal
names is changed. -/
theorem Config.validate_agrees (c : Config) :
    (c.normalized = c ↔ c.validate = .ok () ∧ c.timeQuantum ≤ maxQuantum) ∧
      ∀ rule, c.validate = .error rule → rule.values c.normalized ≠ rule.values c :=
  ⟨normalized_eq_self_iff.trans normal_iff, fun _ => values_normalized_ne⟩

/-- A quantum one above what the scheduler can count to is accepted, and normalizing changes it. -/
theorem Config.quantum_accepted :
    ({ timeQuantum := 4294967296 } : Config).validate = .ok () ∧
      ({ timeQuantum := 4294967296 } : Config).normalized ≠ { timeQuantum := 4294967296 } :=
  ⟨rfl, by decide⟩

end Crossroads
