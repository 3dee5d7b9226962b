import Crossroads.Policy.Choice
import Mathlib.Data.List.Nodup
import Mathlib.Data.Prod.Lex
import Mathlib.Order.Lattice.Nat
/-!
# What the policies choose

Each policy has a key, a tuple compared component by component: what the policy looks at first, for two of them when the
lane was last served, then the arrival at the head and the number of the lane.  Keys of different lanes differ, so among
the ready lanes one is strictly least, wherever it stands in the table, and that is the lane chosen
(`SystemSnapshot.choices`).
-/
namespace Crossroads

/-! ## Keys -/

namespace Policy

/-- What a policy looks at first. -/
def rank (p : Policy) (params : PolicyParams) (l : LaneSnapshot) : ℤ :=
  match p with
  | sjf | srtf         => Double.orderKey (processingTime params.crossTimeSecs l)
  | agingSjf           => Double.orderKey (agingCost params.crossTimeSecs l)
  | weightedSjf        => Double.orderKey (weightedCost params.crossTimeSecs l)
  | predictiveSjf      => Double.orderKey (predictiveCost params.crossTimeSecs l)
  | multilevelFeedback => level params l
  | priorityRoundRobin => l.priority

/-- What a policy looks at second: when the lane was last served, before all else if it never was.  Policies that go by
cost do not look at it. -/
def turn (p : Policy) (l : LaneSnapshot) : WithBot ℕ :=
  match p with
  | multilevelFeedback | priorityRoundRobin => l.lastServiceMs.elim ⊥ WithBot.some
  | _ => ⊥

def key (p : Policy) (params : PolicyParams) (l : LaneSnapshot) : ℤ ×ₗ WithBot ℕ ×ₗ ℕ ×ₗ ℕ :=
  toLex (p.rank params l, toLex (p.turn l, toLex (l.arrivalMs, l.lane.index)))

variable {p : Policy} {params : PolicyParams} {a b best : LaneSnapshot} {s s' : SystemSnapshot}

theorem compare_toLex {α β : Type} [Ord α] [Ord β] (x x' : α) (y y' : β) :
    compare (toLex (x, y)) (toLex (x', y')) = (compare x x').then (compare y y') := by
  rw [Prod.Lex.compare_def]
  rfl

theorem compare_map {α β : Type} [LinearOrder α] [LinearOrder β] {f : α → β} (hf : StrictMono f) (x y : α) :
    compare (f x) (f y) = compare x y := by
  rw [← cmp_eq_compare, ← cmp_eq_compare, hf.cmp_map_eq]

theorem compare_intCast (m n : ℕ) : compare (m : ℤ) (n : ℤ) = compare m n :=
  compare_map (fun _ _ h => Int.ofNat_lt.2 h) m n

theorem compareService_eq_compare_bot : ∀ m n : Option ℕ, LaneSnapshot.compareService m n =
    compare (m.elim (⊥ : WithBot ℕ) WithBot.some) (n.elim ⊥ WithBot.some)
  | none, none => (compare_eq_iff_eq.2 rfl).symm
  | none, some n => (compare_lt_iff_lt.2 (WithBot.bot_lt_coe n)).symm
  | some m, none => (compare_gt_iff_gt.2 (WithBot.bot_lt_coe m)).symm
  | some m, some n => (compare_map WithBot.coe_strictMono m n).symm

/-- **A policy's order is the order of its keys.** -/
theorem order_eq_compare (p : Policy) (params : PolicyParams) (a b : LaneSnapshot) :
    p.order params a b = compare (p.key params a) (p.key params b) := by
  simp only [key, compare_toLex]
  cases p
  case multilevelFeedback =>
    simp [rank, turn, order, levelOrder, LaneSnapshot.turnOrder, LaneSnapshot.fifoOrder, compareService_eq_compare_bot,
      compare_intCast]
  case priorityRoundRobin =>
    simp [rank, turn, order, priorityOrder, LaneSnapshot.turnOrder, LaneSnapshot.fifoOrder,
      compareService_eq_compare_bot, compare_intCast]
  all_goals simp [rank, turn, order, costOrder, Double.compare, LaneSnapshot.fifoOrder]

instance : Std.TransCmp (p.order params) := by
  have horder : p.order params = compareOn (p.key params) := by
    funext a b
    exact order_eq_compare p params a b
  rw [horder]
  infer_instance

theorem lane_eq_of_key_eq (h : p.key params a = p.key params b) : a.lane = b.lane := by
  simp only [key, toLex_inj, Prod.mk.injEq] at h
  exact Lane.index_inj h.2.2.2

/-! ## The least ready lane -/

/-- A ready lane that comes strictly before every other ready lane. -/
structure LeastReady (p : Policy) (params : PolicyParams) (s : SystemSnapshot) (best : LaneSnapshot) : Prop where
  ready : best ∈ s.ready
  least : ∀ l ∈ s.ready, l.lane ≠ best.lane → p.key params best < p.key params l

end Policy

namespace SystemSnapshot

variable {p : Policy} {params : PolicyParams} {s s' : SystemSnapshot} {a b best : LaneSnapshot}

/-- The four entries of the table are about four lanes, wherever they stand. -/
def Distinct (s : SystemSnapshot) : Prop := (s.lanes.toList.map (·.lane)).Nodup

theorem mem_ready : a ∈ s.ready ↔ a ∈ s.lanes.toList ∧ a.state = .ready := by
  simp [ready, List.mem_filter]

theorem ready_eq_nil_iff : s.ready = [] ↔ ∀ i, (s.lanes.get i).state ≠ .ready := by
  simp [ready, PerLane.toList_eq, List.filter_eq_nil_iff, Lane.mem_all]

theorem Distinct.eq_of_lane (h : s.Distinct) (ha : a ∈ s.ready) (hb : b ∈ s.ready) (hl : a.lane = b.lane) : a = b :=
  List.inj_on_of_nodup_map h (mem_ready.1 ha).1 (mem_ready.1 hb).1 hl

theorem key_le_of_leastReady (h : p.leastReady params s = some a) (hb : b ∈ s.ready) :
    p.key params a ≤ p.key params b := by
  have hle := isLE_of_firstLeast? h hb
  rw [Policy.order_eq_compare] at hle
  exact compare_le_iff_le.1 (Ordering.isLE_iff_ne_gt.1 hle)

/-- **The choice is the ready lane that is strictly least.** -/
theorem Distinct.leastReady_eq_some_iff (h : s.Distinct) : p.leastReady params s = some best ↔
    p.LeastReady params s best := by
  constructor
  · intro hbest
    refine ⟨mem_of_firstLeast? hbest, fun l hl hne => ?_⟩
    exact lt_of_le_of_ne (key_le_of_leastReady hbest hl) fun heq => hne (Policy.lane_eq_of_key_eq heq).symm
  · intro hbest
    cases hleast : p.leastReady params s with
    | none =>
      have hnil : s.ready = [] := firstLeast?_eq_none_iff.1 hleast
      simpa [hnil] using hbest.ready
    | some l =>
      have hl : l ∈ s.ready := mem_of_firstLeast? hleast
      by_cases hlane : l.lane = best.lane
      · rw [h.eq_of_lane hl hbest.ready hlane]
      · exact absurd (hbest.least l hl hlane) (not_lt.2 (key_le_of_leastReady hleast hbest.ready))

/-! ## Tables that look alike -/

theorem ready_perm (h : s.lanes.toList.Perm s'.lanes.toList) : a ∈ s.ready ↔ a ∈ s'.ready := by
  rw [mem_ready, mem_ready, h.mem_iff]

theorem Distinct.perm (hs : s.Distinct) (h : s.lanes.toList.Perm s'.lanes.toList) : s'.Distinct :=
  (h.map _).nodup_iff.1 hs

theorem Distinct.leastReady_perm (hs : s.Distinct) (h : s.lanes.toList.Perm s'.lanes.toList) :
    p.leastReady params s' = p.leastReady params s := by
  refine Option.ext fun best => ?_
  rw [(hs.perm h).leastReady_eq_some_iff, hs.leastReady_eq_some_iff]
  constructor
  · rintro ⟨hready, hleast⟩
    exact ⟨(ready_perm h).2 hready, fun l hl => hleast l ((ready_perm h).1 hl)⟩
  · rintro ⟨hready, hleast⟩
    exact ⟨(ready_perm h).1 hready, fun l hl => hleast l ((ready_perm h).2 hl)⟩

theorem ready_congr (h : ∀ i, s'.lanes.get i = s.lanes.get i ∨
    ((s.lanes.get i).state ≠ .ready ∧ (s'.lanes.get i).state ≠ .ready)) : s'.ready = s.ready := by
  have hlanes : ∀ is : List Lane, (is.map s'.lanes.get).filter (fun l => l.state = .ready) =
      (is.map s.lanes.get).filter (fun l => l.state = .ready) := by
    intro is
    induction is with
    | nil => rfl
    | cons i is ih =>
      rcases h i with heq | ⟨hno, hno'⟩
      · simp [List.filter_cons, ih, heq]
      · simp [ih, hno, hno']
  simpa [ready, PerLane.toList_eq] using hlanes Lane.all

/-! ## The contract -/

/-- What the policies promise of their choices. -/
structure Choices (s : SystemSnapshot) (params : PolicyParams) : Prop where
  idle : ∀ p : Policy, p.isPreemptive = false → (p.choose params s = none ↔ ∀ i, (s.lanes.get i).state ≠ .ready)
  least : ∀ p : Policy, p.isPreemptive = false →
    ∀ i, p.choose params s = some i ↔ ∃ best, p.LeastReady params s best ∧ best.lane = i
  unique : ∀ (p : Policy) (a b : LaneSnapshot), p.LeastReady params s a → p.LeastReady params s b → a = b
  /-- Shortest remaining time first keeps the running lane unless the choice would be done sooner. -/
  preempts : ∀ i, Policy.srtf.choose params s = some i ↔ ∃ best, Policy.srtf.LeastReady params s best ∧ best.lane = i ∧
    ∀ running, s.firstRunning = some running → ¬ Policy.processingTime params.crossTimeSecs running ≤
      Policy.processingTime params.crossTimeSecs best
  levels : ∀ l, Policy.level params l < max params.levels 1 ∧
    (params.agingThreshold ≤ l.waitingTime → Policy.level params l = 0)
  positions : ∀ p : Policy, p.isPreemptive = false → ∀ s' : SystemSnapshot, s.lanes.toList.Perm s'.lanes.toList →
    p.choose params s' = p.choose params s
  bystanders : ∀ p : Policy, p.isPreemptive = false → ∀ s' : SystemSnapshot, (∀ i, s'.lanes.get i = s.lanes.get i ∨
    ((s.lanes.get i).state ≠ .ready ∧ (s'.lanes.get i).state ≠ .ready)) → p.choose params s' = p.choose params s

theorem choose_srtf_eq_some_iff {i : Lane} : Policy.srtf.choose params s = some i ↔
    ∃ best, Policy.srtf.leastReady params s = some best ∧ best.lane = i ∧
      ∀ running, s.firstRunning = some running → ¬ Policy.keepsRunning params running best := by
  unfold Policy.choose
  cases Policy.srtf.leastReady params s with
  | none => simp
  | some best =>
    cases s.firstRunning with
    | none => simp
    | some running =>
      cases hk : Policy.keepsRunning params running best <;> simp [hk, Policy.isPreemptive]

/-- **The policies keep their promises**, whatever the four lanes report and however the policies are tuned. -/
theorem choices (h : s.Distinct) (params : PolicyParams) : s.Choices params where
  idle p hp := by
    rw [Policy.choose_of_not_preemptive hp, Option.map_eq_none_iff, ← ready_eq_nil_iff]
    exact firstLeast?_eq_none_iff
  least p hp i := by
    simp only [Policy.choose_of_not_preemptive hp, Option.map_eq_some_iff, h.leastReady_eq_some_iff]
  unique p a b ha hb := by
    rw [← h.leastReady_eq_some_iff] at ha hb
    exact Option.some.inj (ha.symm.trans hb)
  preempts i := by
    simp only [choose_srtf_eq_some_iff, h.leastReady_eq_some_iff, Policy.keepsRunning, decide_eq_true_eq]
  levels l := by
    refine ⟨Policy.level_lt params l, fun hold => ?_⟩
    rw [Policy.level, if_pos hold]
  positions p hp s' hperm := by
    rw [Policy.choose_of_not_preemptive hp, Policy.choose_of_not_preemptive hp, h.leastReady_perm hperm]
  bystanders p hp s' hsame := by
    rw [Policy.choose_of_not_preemptive hp, Policy.choose_of_not_preemptive hp, Policy.leastReady, Policy.leastReady,
      ready_congr hsame]

/-- Two ready lanes of one level, west waiting for its first turn; the table is not in the order of the lanes. -/
def westUnserved : SystemSnapshot where
  lanes :=
    { north := { lane := .south, state := .ready, arrivalMs := 10, lastServiceMs := some 5 }
      south := { lane := .west, state := .ready, arrivalMs := 40 }
      east := { lane := .north, state := .running, arrivalMs := 1 }
      west := { lane := .east } }

theorem choices_westUnserved : westUnserved.Distinct ∧ westUnserved.Choices {} ∧
    Policy.multilevelFeedback.choose {} westUnserved = some .west := by
  have hdistinct : westUnserved.Distinct := by
    unfold Distinct
    decide
  exact ⟨hdistinct, choices hdistinct {}, by decide⟩

end SystemSnapshot

end Crossroads
