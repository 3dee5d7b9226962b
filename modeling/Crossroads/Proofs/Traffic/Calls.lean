import Crossroads.Proofs.Traffic.Foremost
import Mathlib.Data.List.DropRight
/-!
# Pending emergencies sum up the calls

Whatever is called in whatever order, the emergency that is pending on a lane sums up the calls that were raised on the
lane since it was last resolved (`EmergencyCall.raised`): the stamp is that of the first, the kind is the heaviest.
Which emergency comes next is no call: it is read off what is pending on the lanes that are asked for.
-/
namespace Crossroads

/-- A call on the pending emergencies. -/
inductive EmergencyCall where
  | trigger (l : Lane) (kind : EmergencyKind) (tick : Nat)
  | resolve (l : Lane)

namespace EmergencyCall

def lane : EmergencyCall → Lane
  | trigger l _ _ => l
  | resolve l     => l

def resolves (l : Lane) : EmergencyCall → Bool
  | resolve m => m = l
  | _         => false

/-- What a call raises on a lane: a kind, and the stamp that comes with it. -/
def raises? (l : Lane) : EmergencyCall → Option (EmergencyKind × Nat)
  | trigger m kind tick => if m = l then some (kind, tick) else none
  | _                   => none

/-- What was raised on a lane since it was last resolved, the first call first. -/
def raised (l : Lane) (calls : List EmergencyCall) : List (EmergencyKind × Nat) :=
  (calls.rtakeWhile (fun c => !c.resolves l)).filterMap (raises? l)

end EmergencyCall

def Emergencies.perform (em : Emergencies) : EmergencyCall → Emergencies
  | .trigger l kind tick => (em.trigger l kind tick).2
  | .resolve l           => (em.resolve l).2

/-- What is pending after some calls when nothing was pending before. -/
def Emergencies.ofCalls (calls : List EmergencyCall) : Emergencies := calls.foldl perform {}

variable {em : Emergencies} {ev a b : EmergencyEvent} {l m : Lane} {kind : EmergencyKind} {tick : Nat}
  {c : EmergencyCall} {calls calls' : List EmergencyCall} {rs rs' : List (EmergencyKind × Nat)}

/-! ## What was raised -/

theorem EmergencyKind.weight_inj {k k' : EmergencyKind} (h : k.weight = k'.weight) : k = k' := by
  cases k <;> cases k' <;> first | rfl | cases h

namespace EmergencyCall

theorem resolves_eq_true_iff : c.resolves l = true ↔ c = .resolve l := by
  cases c with
  | trigger | resolve => simp [resolves]

theorem raises?_eq_some_iff : c.raises? l = some (kind, tick) ↔ c = .trigger l kind tick := by
  cases c with
  | resolve => simp [raises?]
  | trigger m kind' tick' =>
    rw [raises?]
    split
    · rename_i hm
      simp [hm]
    · rename_i hm
      simp [hm]

theorem raises?_of_lane_ne (h : c.lane ≠ l) : c.raises? l = none := by
  cases c with
  | resolve => rfl
  | trigger => exact if_neg h

theorem resolves_of_lane_ne (h : c.lane ≠ l) : c.resolves l = false := by
  rw [← Bool.not_eq_true, resolves_eq_true_iff]
  intro hc
  rw [hc] at h
  exact h rfl

theorem raised_concat (l : Lane) (calls : List EmergencyCall) (c : EmergencyCall) :
    raised l (calls ++ [c]) = if c.resolves l then [] else raised l calls ++ (c.raises? l).toList := by
  unfold raised
  rw [List.rtakeWhile_concat]
  cases c.resolves l with
  | true => rfl
  | false =>
    rw [if_pos Bool.not_false, if_neg Bool.false_ne_true, List.filterMap_append, List.filterMap_cons]
    cases c.raises? l <;> rfl

theorem mem_raised_concat : (kind, tick) ∈ raised l (calls ++ [c]) ↔
    c ≠ .resolve l ∧ ((kind, tick) ∈ raised l calls ∨ c = .trigger l kind tick) := by
  rw [raised_concat]
  by_cases hc : c = .resolve l
  · rw [if_pos (resolves_eq_true_iff.2 hc)]
    simp [hc]
  · rw [if_neg fun h => hc (resolves_eq_true_iff.1 h), List.mem_append, Option.mem_toList, raises?_eq_some_iff]
    simp [hc]

/-- What stands after the last resolve of a lane stood there before the last call, or is the last call. -/
theorem exists_split_concat : (∃ before after, calls ++ [c] = before ++ .trigger l kind tick :: after ∧
      .resolve l ∉ after) ↔
    c ≠ .resolve l ∧ ((∃ before after, calls = before ++ .trigger l kind tick :: after ∧ .resolve l ∉ after) ∨
      c = .trigger l kind tick) := by
  constructor
  · rintro ⟨before, after, hcalls, hafter⟩
    rcases List.eq_nil_or_concat' after with rfl | ⟨after', c', rfl⟩
    · obtain ⟨-, hc⟩ := List.append_inj' hcalls rfl
      cases hc
      exact ⟨nofun, .inr rfl⟩
    · rw [← List.cons_append, ← List.append_assoc] at hcalls
      obtain ⟨rfl, hc⟩ := List.append_inj' hcalls rfl
      cases hc
      rw [List.mem_append, not_or, List.mem_singleton] at hafter
      exact ⟨Ne.symm hafter.2, .inl ⟨before, after', rfl, hafter.1⟩⟩
  · rintro ⟨hc, ⟨before, after, rfl, hafter⟩ | rfl⟩
    · refine ⟨before, after ++ [c], by simp, ?_⟩
      rw [List.mem_append, not_or, List.mem_singleton]
      exact ⟨hafter, Ne.symm hc⟩
    · exact ⟨calls, [], rfl, List.not_mem_nil⟩

/-- **A call was raised since the last resolve if no resolve comes after it.** -/
theorem mem_raised : (kind, tick) ∈ raised l calls ↔
    ∃ before after, calls = before ++ .trigger l kind tick :: after ∧ .resolve l ∉ after := by
  induction calls using List.reverseRecOn with
  | nil => simp [raised]
  | append_singleton calls c ih => rw [mem_raised_concat, exists_split_concat, ih]

theorem raised_filter (l : Lane) (calls : List EmergencyCall) :
    raised l (calls.filter (fun c => c.lane = l)) = raised l calls := by
  induction calls using List.reverseRecOn with
  | nil => rfl
  | append_singleton calls c ih =>
    rw [List.filter_append, raised_concat]
    by_cases hc : c.lane = l
    · rw [List.filter_cons_of_pos (by simpa using hc), List.filter_nil, raised_concat, ih]
    · rw [List.filter_cons_of_neg (by simpa using hc), List.filter_nil, List.append_nil, ih, resolves_of_lane_ne hc,
        raises?_of_lane_ne hc]
      simp

end EmergencyCall

open EmergencyCall

/-! ## What sums it up -/

/-- An emergency sums up what was raised on its lane. -/
structure EmergencyEvent.Sums (ev : EmergencyEvent) (l : Lane) (rs : List (EmergencyKind × Nat)) : Prop where
  lane : ev.lane = l
  first : rs.head?.map Prod.snd = some ev.arrivalTick
  raised : ∃ tick, (ev.kind, tick) ∈ rs
  heaviest : ∀ r ∈ rs, r.1.weight ≤ ev.kind.weight
  priority : ev.priority = ev.kind.weight
  unresolved : ev.resolved = false

namespace EmergencyEvent

theorem Sums.first_append (h : ev.Sums l rs) (rs' : List (EmergencyKind × Nat)) :
    (rs ++ rs').head?.map Prod.snd = some ev.arrivalTick := by
  obtain ⟨tick, hmem⟩ := h.raised
  rw [List.head?_append_of_ne_nil _ (List.ne_nil_of_mem hmem)]
  exact h.first

theorem Sums.heavier (h : ev.Sums l rs) (hlt : ev.priority < kind.weight) :
    ({ ev with priority := kind.weight, kind := kind } : EmergencyEvent).Sums l (rs ++ [(kind, tick)]) where
  lane := h.lane
  first := h.first_append _
  raised := ⟨tick, List.mem_append_right _ List.mem_cons_self⟩
  heaviest r hr := by
    rw [h.priority] at hlt
    rcases List.mem_append.1 hr with hr | hr
    · exact Nat.le_of_lt (Nat.lt_of_le_of_lt (h.heaviest r hr) hlt)
    · rw [List.mem_singleton.1 hr]
  priority := rfl
  unresolved := h.unresolved

theorem Sums.lighter (h : ev.Sums l rs) (hle : ¬ ev.priority < kind.weight) : ev.Sums l (rs ++ [(kind, tick)]) where
  lane := h.lane
  first := h.first_append _
  raised := by
    obtain ⟨k, hmem⟩ := h.raised
    exact ⟨k, List.mem_append_left _ hmem⟩
  heaviest r hr := by
    rw [h.priority] at hle
    rcases List.mem_append.1 hr with hr | hr
    · exact h.heaviest r hr
    · rw [List.mem_singleton.1 hr]
      exact Nat.not_lt.1 hle
  priority := h.priority
  unresolved := h.unresolved

/-- **Only one emergency sums up some calls**, and their order does not matter behind the first. -/
theorem Sums.unique (ha : a.Sums l rs) (hb : b.Sums l rs') (hhead : rs.head? = rs'.head?) (hperm : rs.Perm rs') :
    a = b := by
  have htick : a.arrivalTick = b.arrivalTick := by
    have h := ha.first
    rw [hhead, hb.first] at h
    exact (Option.some.inj h).symm
  have hkind : a.kind = b.kind := by
    obtain ⟨ta, hta⟩ := ha.raised
    obtain ⟨tb, htb⟩ := hb.raised
    have hle := hb.heaviest _ (hperm.mem_iff.1 hta)
    have hge := ha.heaviest _ (hperm.mem_iff.2 htb)
    exact EmergencyKind.weight_inj (Nat.le_antisymm hle hge)
  have hpriority : a.priority = b.priority := by rw [ha.priority, hb.priority, hkind]
  have hlane : a.lane = b.lane := ha.lane.trans hb.lane.symm
  have hresolved : a.resolved = b.resolved := ha.unresolved.trans hb.unresolved.symm
  cases a
  cases b
  simp_all

end EmergencyEvent

/-! ## One call -/

namespace Emergencies

theorem perform_resolve_self (em : Emergencies) (l : Lane) : (em.perform (.resolve l)).slots.get l = none :=
  em.get_resolve_self l

theorem get_perform_of_lane_ne (em : Emergencies) (h : c.lane ≠ l) :
    (em.perform c).slots.get l = em.slots.get l := by
  cases c with
  | trigger m kind tick => exact em.get_trigger_of_ne kind tick (Ne.symm h)
  | resolve m => exact em.get_resolve_of_ne (Ne.symm h)

end Emergencies

/-! ## What is pending on a lane -/

/-- What is pending on a lane sums up what was raised on it; nothing is pending if nothing was. -/
def SlotSums (slot : Option EmergencyEvent) (l : Lane) (rs : List (EmergencyKind × Nat)) : Prop :=
  match slot with
  | none    => rs = []
  | some ev => ev.Sums l rs

namespace SlotSums

variable {slot slot' : Option EmergencyEvent}

theorem eq_nil_iff (h : SlotSums slot l rs) : rs = [] ↔ slot.isSome = false := by
  cases slot with
  | none => exact ⟨fun _ => rfl, fun _ => h⟩
  | some ev =>
    obtain ⟨tick, hmem⟩ := EmergencyEvent.Sums.raised h
    constructor
    · intro hnil
      rw [hnil] at hmem
      cases hmem
    · rintro ⟨⟩

theorem unique (h : SlotSums slot l rs) (h' : SlotSums slot' l rs') (hhead : rs.head? = rs'.head?)
    (hperm : rs.Perm rs') : slot = slot' := by
  have hnil : rs = [] ↔ rs' = [] := by rw [← List.isEmpty_iff, ← List.isEmpty_iff, hperm.isEmpty_eq]
  rw [h.eq_nil_iff, h'.eq_nil_iff] at hnil
  cases slot with
  | none =>
    cases slot' with
    | none => rfl
    | some ev' => cases hnil.1 rfl
  | some ev =>
    cases slot' with
    | none => cases hnil.2 rfl
    | some ev' => exact congrArg some (EmergencyEvent.Sums.unique h h' hhead hperm)

theorem trigger (h : SlotSums (em.slots.get l) l rs) (kind : EmergencyKind) (tick : Nat) :
    SlotSums ((em.trigger l kind tick).2.slots.get l) l (rs ++ [(kind, tick)]) := by
  cases hs : em.slots.get l with
  | none =>
    rw [hs] at h
    rw [show rs = [] from h, Emergencies.trigger_of_none hs, PerLane.get_set_self]
    exact ⟨rfl, rfl, ⟨tick, List.mem_cons_self⟩, fun r hr => by rw [List.mem_singleton.1 hr], rfl, rfl⟩
  | some ev =>
    rw [hs] at h
    by_cases hlt : ev.priority < kind.weight
    · rw [Emergencies.trigger_of_heavier hs hlt, PerLane.get_set_self]
      exact EmergencyEvent.Sums.heavier h hlt
    · rw [Emergencies.trigger_of_lighter hs hlt, hs]
      exact EmergencyEvent.Sums.lighter h hlt

end SlotSums

/-! ## All calls -/

namespace Emergencies

/-- **After any calls, what is pending on a lane sums up what was raised on it.** -/
theorem slotSums_ofCalls (calls : List EmergencyCall) (l : Lane) :
    SlotSums ((ofCalls calls).slots.get l) l (raised l calls) := by
  induction calls using List.reverseRecOn with
  | nil =>
    have hnone : (ofCalls []).slots.get l = none := PerLane.get_replicate none l
    rw [hnone]
    rfl
  | append_singleton calls c ih =>
    -- only a call about the lane changes what is pending there, or what was raised on it
    have hstep : ofCalls (calls ++ [c]) = (ofCalls calls).perform c := List.foldl_concat ..
    rw [hstep, raised_concat]
    by_cases hc : c.lane = l
    · cases c with
      | trigger m kind tick =>
        obtain rfl : m = l := hc
        rw [raises?_eq_some_iff.2 rfl]
        exact ih.trigger kind tick
      | resolve m =>
        obtain rfl : m = l := hc
        rw [perform_resolve_self, if_pos (resolves_eq_true_iff.2 rfl)]
        rfl
    · rw [get_perform_of_lane_ne _ hc, resolves_of_lane_ne hc, raises?_of_lane_ne hc, if_neg Bool.false_ne_true,
        Option.toList_none, List.append_nil]
      exact ih

theorem Tidy.perform (h : em.Tidy) : ∀ c : EmergencyCall, (em.perform c).Tidy
  | .trigger l kind tick => h.trigger l kind tick
  | .resolve l => h.resolve l

theorem Tidy.foldl_perform : ∀ (calls : List EmergencyCall) {em : Emergencies}, em.Tidy →
    (calls.foldl Emergencies.perform em).Tidy
  | [], _, h => h
  | c :: calls, _, h => foldl_perform calls (h.perform c)

theorem tidy_ofCalls (calls : List EmergencyCall) : (ofCalls calls).Tidy := by
  have hnone : ∀ l, ({} : Emergencies).slots.get l = none := PerLane.get_replicate none
  refine .foldl_perform calls ⟨fun l ev hev => ?_, fun l ev hev => ?_⟩ <;> rw [hnone l] at hev <;> cases hev

theorem raised_eq_nil_iff : raised l calls = [] ↔ (ofCalls calls).isPending l = false :=
  (slotSums_ofCalls calls l).eq_nil_iff

/-! ## What calls come to -/

structure Accounts (calls : List EmergencyCall) : Prop where
  /-- A lane's emergency is pending if a call was raised after the last resolve. -/
  pending : ∀ l, (ofCalls calls).isPending l = true ↔
    ∃ before kind tick after, calls = before ++ .trigger l kind tick :: after ∧ .resolve l ∉ after
  sums : ∀ l ev, (ofCalls calls).slots.get l = some ev → ev.Sums l (raised l calls)
  /-- The later calls may come in any order. -/
  reordered : ∀ l calls', (raised l calls').head? = (raised l calls).head? →
    (raised l calls').Perm (raised l calls) → (ofCalls calls').slots.get l = (ofCalls calls).slots.get l
  /-- Only the first call is told that it is. -/
  told : ∀ l kind tick, ((ofCalls calls).trigger l kind tick).1 = true ↔ raised l calls = []
  /-- Calls about other lanes change nothing for a lane. -/
  apart : ∀ l, (ofCalls (calls.filter (fun c => c.lane = l))).slots.get l = (ofCalls calls).slots.get l
  /-- Which one is next is read off the slots of the eligible lanes. -/
  looked : ∀ eligible calls', (∀ l, eligible l = true → (ofCalls calls').slots.get l = (ofCalls calls).slots.get l) →
    (ofCalls calls').nextWhere eligible = (ofCalls calls).nextWhere eligible
  noneNext : ∀ eligible, (ofCalls calls).nextWhere eligible = none ↔
    ∀ l, (ofCalls calls).isPending l = true → eligible l = false
  next : ∀ eligible ev, (ofCalls calls).nextWhere eligible = some ev ↔ (ofCalls calls).Foremost eligible ev
  onlyNext : ∀ eligible a b, (ofCalls calls).Foremost eligible a → (ofCalls calls).Foremost eligible b → a = b

/-- **The pending emergencies are what the calls come to.** -/
theorem accounts_calls (calls : List EmergencyCall) : Accounts calls := by
  have htidy := tidy_ofCalls calls
  refine ⟨fun l => ?_, fun l ev hev => ?_, fun l calls' =>
    (slotSums_ofCalls calls' l).unique (slotSums_ofCalls calls l), fun l kind tick => ?_, fun l => ?_,
    fun eligible calls' => htidy.nextWhere_congr (tidy_ofCalls calls'), fun eligible => htidy.nextWhere_eq_none_iff,
    fun eligible ev => htidy.nextWhere_eq_some_iff, fun eligible a b => Foremost.unique⟩
  · rw [← Bool.not_eq_false, ← raised_eq_nil_iff]
    constructor
    · intro hne
      obtain ⟨⟨kind, tick⟩, hmem⟩ := List.exists_mem_of_ne_nil _ hne
      obtain ⟨before, after, hcalls, hafter⟩ := mem_raised.1 hmem
      exact ⟨before, kind, tick, after, hcalls, hafter⟩
    · rintro ⟨before, kind, tick, after, hcalls, hafter⟩
      exact List.ne_nil_of_mem (mem_raised.2 ⟨before, after, hcalls, hafter⟩)
  · have hsum := slotSums_ofCalls calls l
    rw [hev] at hsum
    exact hsum
  · rw [trigger_new, Bool.not_eq_true', raised_eq_nil_iff]
  · have hsame := raised_filter l calls
    exact (slotSums_ofCalls _ l).unique (slotSums_ofCalls calls l) (congrArg List.head? hsame) (.of_eq hsame)

end Emergencies

end Crossroads
