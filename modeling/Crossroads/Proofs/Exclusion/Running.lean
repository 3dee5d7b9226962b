import Crossroads.Junction.Build
/-!
# Running lanes

While a thread holds the scheduler's lock the others can only take lanes out of the crossing (`Junction.Yields`), so
what it knows about the running lanes stays true.  Sections that do no more than that are yielding (`Act.Yielding`).
-/
namespace Crossroads

theorem Lane.length_filter_all_le {p : Lane → Bool} (h : ∀ a b, p a = true → p b = true → a = b) :
    (Lane.all.filter p).length ≤ 1 := by
  have hpass : ∀ l ∈ Lane.all.filter p, p l = true := fun l hl => (List.mem_filter.1 hl).2
  have hnodup : (Lane.all.filter p).Nodup := List.filter_sublist.nodup (by decide)
  match hls : Lane.all.filter p with
  | [] => exact Nat.zero_le 1
  | [_] => exact Nat.le_refl 1
  | a :: b :: _ =>
    rw [hls] at hpass hnodup
    have hab : a = b := h a b (hpass a List.mem_cons_self) (hpass b (List.mem_cons_of_mem _ List.mem_cons_self))
    exact absurd (hab ▸ List.mem_cons_self) (List.nodup_cons.1 hnodup).1

/-- Whether a fault is a broken invariant or a rejected change of a lane's state. -/
def Fault.isBreach : Fault → Bool
  | .halted _ => true
  | .refused (.invariantViolation _) => true
  | .refused (.invalidTransition _ _ _) => true
  | .refused _ => false

/-- An answer that is no breach, should it be a refusal. -/
def Harmless {α : Type} : Except TrafficError α → Prop
  | .ok _ => True
  | .error e => (Fault.refused e).isBreach = false

/-- A change of a lane that does not make it run, and is no breach should it be refused. -/
def Approach.Mild (a : Approach) : Except TrafficError Approach → Prop
  | .ok b => b.state = .running → a.state = .running
  | .error e => (Fault.refused e).isBreach = false

namespace Junction

variable {i j k : Junction} {l m : Lane} {R S : Lane → Prop}

def Runs (j : Junction) (l : Lane) : Prop := (j.lanes.get l).state = .running

instance : Decidable (j.Runs l) := inferInstanceAs (Decidable (_ = _))

/-- All running lanes are of some kind. -/
def Runners (R : Lane → Prop) (j : Junction) : Prop := ∀ l, j.Runs l → R l

/-- At most one lane runs, and no violation was reported. -/
structure Exclusive (j : Junction) : Prop where
  one : ∀ l m, j.Runs l → j.Runs m → l = m
  count : j.monitor.count = 0

/-- A running lane is the one that the scheduler put into the crossing. -/
def Linked (j : Junction) : Prop := ∀ l, j.Runs l → j.scheduler.current = some l

/-- What threads without the scheduler's lock may do to a junction: no further lane runs, and the current lane and the
count of violations stay. -/
structure Yields (j i : Junction) : Prop where
  runs : ∀ l, i.Runs l → j.Runs l
  current : i.scheduler.current = j.scheduler.current
  count : i.monitor.count = j.monitor.count

theorem Yields.refl (j : Junction) : j.Yields j := ⟨fun _ h => h, rfl, rfl⟩

theorem Yields.trans (h : i.Yields j) (h' : j.Yields k) : i.Yields k :=
  ⟨fun l hl => h.runs l (h'.runs l hl), h'.current.trans h.current, h'.count.trans h.count⟩

theorem Yields.of_eq (hl : i.lanes = j.lanes) (hc : i.scheduler.current = j.scheduler.current)
    (hm : i.monitor = j.monitor) : j.Yields i where
  runs l h := by
    rw [Runs, hl] at h
    exact h
  current := hc
  count := by rw [hm]

theorem Yields.set_lane {a : Approach} (h : a.state = .running → j.Runs l) :
    j.Yields { j with lanes := j.lanes.set l a } where
  runs m hm := by
    rw [Runs, PerLane.get_set] at hm
    split at hm
    · rename_i e
      rw [e]
      exact h hm
    · exact hm
  current := rfl
  count := rfl

theorem Runners.yields (h : j.Runners R) (y : j.Yields i) : i.Runners R := fun l hl => h l (y.runs l hl)

theorem Runners.mono (h : j.Runners R) (hRS : ∀ l, R l → S l) : j.Runners S := fun l hl => hRS l (h l hl)

theorem Exclusive.yields (h : j.Exclusive) (y : j.Yields i) : i.Exclusive :=
  ⟨fun l m hl hm => h.one l m (y.runs l hl) (y.runs m hm), y.count.trans h.count⟩

theorem Linked.yields (h : j.Linked) (y : j.Yields i) : i.Linked := fun l hl => by
  rw [y.current]
  exact h l (y.runs l hl)

theorem Runners.exclusive (h : j.Runners (· = m)) (hc : j.monitor.count = 0) : j.Exclusive :=
  ⟨fun a b ha hb => (h a ha).trans (h b hb).symm, hc⟩

theorem Exclusive.length_runningLanes (h : j.Exclusive) : j.runningLanes.length ≤ 1 :=
  Lane.length_filter_all_le fun a b ha hb => h.one a b (of_decide_eq_true ha) (of_decide_eq_true hb)

end Junction

/-! ## Freshly built junctions -/

section

variable {b : Blueprint} {now : Nat} {j : Junction}

theorem Blueprint.eq_assemble (h : b.build now = .ok j) : j = b.assemble b.config.normalized now := by
  unfold build at h
  split at h
  · cases h
  · exact (Except.ok.inj h).symm

theorem Blueprint.not_runs (h : b.build now = .ok j) (l : Lane) : ¬ j.Runs l := by
  rw [eq_assemble h, Junction.Runs, assemble, PerLane.get_ofFn]
  exact nofun

theorem Blueprint.exclusive_build (h : b.build now = .ok j) : j.Exclusive :=
  ⟨fun l _ hl => absurd hl (not_runs h l), eq_assemble h ▸ rfl⟩

theorem Blueprint.linked_build (h : b.build now = .ok j) : j.Linked := fun l hl => absurd hl (not_runs h l)

end

/-! ## Yielding sections -/

/-- A section that only takes lanes out of the crossing, fails with no breach, and answers something of a kind. -/
structure Act.Yielding {α : Type} (a : Act α) (Q : α → Prop) : Prop where
  yields : ∀ j : Junction, j.Yields (a.runOn j).2
  fault : ∀ {j f}, (a.runOn j).1 = .error f → f.isBreach = false
  answer : ∀ {j b}, (a.runOn j).1 = .ok b → Q b

namespace Act.Yielding

open Junction

variable {α : Type} {Q : α → Prop}

theorem of_ok {a : Act α} (h : ∀ j : Junction, ∃ b i, a.runOn j = (.ok b, i) ∧ j.Yields i ∧ Q b) : a.Yielding Q where
  yields j := by
    obtain ⟨b, i, hrun, hy, -⟩ := h j
    rw [hrun]
    exact hy
  fault {j f} e := by
    obtain ⟨b, i, hrun, -, -⟩ := h j
    rw [hrun] at e
    cases e
  answer {j b} e := by
    obtain ⟨c, i, hrun, -, hQ⟩ := h j
    rw [hrun] at e
    exact Except.ok.inj e ▸ hQ

theorem look (f : Junction → α) (hQ : ∀ j, Q (f j)) : (look f).Yielding Q :=
  of_ok fun j => ⟨_, _, rfl, .refl j, hQ j⟩

theorem pure {a : α} (hQ : Q a) : (pure a : Act α).Yielding Q := of_ok fun j => ⟨_, _, rfl, .refl j, hQ⟩

theorem onAllocator_answer {f : Allocator → α × Allocator} (hQ : ∀ a, Q (f a).1) : (onAllocator f).Yielding Q :=
  of_ok fun j => ⟨_, _, rfl, .of_eq rfl rfl rfl, hQ j.allocator⟩

theorem onAllocator (f : Allocator → α × Allocator) : (onAllocator f).Yielding (fun _ => True) :=
  onAllocator_answer fun _ => trivial

theorem onEmergencies (f : Emergencies → α × Emergencies) : (onEmergencies f).Yielding (fun _ => True) :=
  of_ok fun _ => ⟨_, _, rfl, .of_eq rfl rfl rfl, trivial⟩

theorem onMetrics (f : Metrics → Metrics) : (onMetrics f).Yielding (fun _ => True) :=
  of_ok fun _ => ⟨_, _, rfl, .of_eq rfl rfl rfl, trivial⟩

theorem onLane (l : Lane) {f : Approach → Approach} (hf : ∀ a, (f a).state = .running → a.state = .running) :
    (onLane l f).Yielding (fun _ => True) :=
  of_ok fun _ => ⟨_, _, rfl, .set_lane (hf _), trivial⟩

theorem refuse {e : TrafficError} (he : (Fault.refused e).isBreach = false) : (refuse e : Act α).Yielding Q where
  yields := Yields.refl
  fault h := Except.error.inj h ▸ he
  answer h := by cases h

theorem ofExcept {r : Except TrafficError α} (h : Harmless r) : (ofExcept r).Yielding (fun _ => True) := by
  cases r with
  | ok a => exact pure trivial
  | error e => exact refuse h

theorem mono {a : Act α} {Q' : α → Prop} (h : a.Yielding Q) (hQ : ∀ b, Q b → Q' b) : a.Yielding Q' :=
  ⟨h.yields, h.fault, fun hb => hQ _ (h.answer hb)⟩

theorem bind {β : Type} {a : Act α} {k : α → Act β} {Q' : β → Prop} (h : a.Yielding Q)
    (hk : ∀ x, Q x → (k x).Yielding Q') : (a >>= k).Yielding Q' := by
  have hrun : ∀ j, (∃ f, a.runOn j = (.error f, (a.runOn j).2) ∧ (a >>= k).runOn j = (.error f, (a.runOn j).2)) ∨
      ∃ x, Q x ∧ (a >>= k).runOn j = (k x).runOn (a.runOn j).2 := by
    intro j
    rcases hr : a.runOn j with ⟨f | x, j'⟩
    · exact .inl ⟨f, rfl, runOn_bind_of_error hr⟩
    · exact .inr ⟨x, h.answer (by rw [hr]), runOn_bind_of_ok hr⟩
  refine ⟨fun j => ?_, fun {j f} hf => ?_, fun {j b} hb => ?_⟩
  · rcases hrun j with ⟨f, -, e⟩ | ⟨x, hx, e⟩
    · rw [e]
      exact h.yields j
    · rw [e]
      exact (h.yields j).trans ((hk x hx).yields _)
  · rcases hrun j with ⟨g, hg, e⟩ | ⟨x, hx, e⟩
    · rw [e] at hf
      cases hf
      exact h.fault (congrArg Prod.fst hg)
    · rw [e] at hf
      exact (hk x hx).fault hf
  · rcases hrun j with ⟨g, hg, e⟩ | ⟨x, hx, e⟩
    · rw [e] at hb
      cases hb
    · rw [e] at hb
      exact (hk x hx).answer hb

theorem discard {a : Act α} (h : a.Yielding Q) : (discard a).Yielding (fun _ => True) := by
  have hd : Functor.discard a = a >>= fun _ => Pure.pure () := map_eq_pure_bind (Function.const α ()) a
  rw [hd]
  exact h.bind fun _ _ => .pure trivial

theorem tryOnLane (l : Lane) {f : Approach → Except TrafficError Approach} (hf : ∀ a : Approach, a.Mild (f a)) :
    (tryOnLane l f).Yielding (fun _ => True) := by
  have hrun := runOn_tryOnLane l f
  refine ⟨fun j => ?_, fun {j g} hg => ?_, fun _ => trivial⟩
  all_goals have h := hf (j.lanes.get l)
  · rw [hrun]
    cases hr : f (j.lanes.get l) with
    | ok a =>
      rw [hr] at h
      exact .set_lane h
    | error e => exact .refl j
  · rw [hrun] at hg
    cases hr : f (j.lanes.get l) with
    | ok a =>
      rw [hr] at hg
      cases hg
    | error e =>
      rw [hr] at h hg
      cases hg
      exact h

end Act.Yielding
end Crossroads
