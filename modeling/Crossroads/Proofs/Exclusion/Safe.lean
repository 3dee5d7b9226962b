import Crossroads.Junction.Admission
import Crossroads.Routine
import Crossroads.Proofs.Exclusion.Running
/-!
# Safe routines

What a routine has to do at each of its sections so that, whatever the other threads do in between, at most one lane
runs and no breach comes up (`Routine.Safe`).  Without the scheduler's lock a thread counts on nothing and its sections
only yield; under the lock it may count on whatever yielding keeps, and it leaves a linked junction when it drops the
lock.
-/
namespace Crossroads
namespace Routine

variable {α β : Type}

/-- The routine is safe for a thread that holds some layers and left the junction as it is: its remaining sections are,
from all junctions that the other threads may leave them. -/
def Safe (Q : α → HeldLayers → Junction → Prop) : Routine α → HeldLayers → Junction → Prop
  | done a, held, j => Q a held j
  | perform act next, held, j =>
    (.scheduler ∉ held → act.Yielding (fun b => ∀ i, (next b).Safe Q held i)) ∧
    (.scheduler ∈ held → ∀ i, j.Yields i → i.Exclusive →
      ∃ b i', act.runOn i = (.ok b, i') ∧ i'.Exclusive ∧ (next b).Safe Q held i')
  | ask lock next, held, j => held.obstacle lock.layer = none ∧ next.Safe Q held j
  | take lock next, held, j =>
    (lock ≠ .scheduler → next.Safe Q (held.acquire lock.layer) j) ∧
    (lock = .scheduler → .scheduler ∉ held ∧ ∀ i : Junction, i.Linked → next.Safe Q (held.acquire lock.layer) i)
  | drop lock next, held, j =>
    (lock = .scheduler → .scheduler ∈ held ∧ j.Linked) ∧ next.Safe Q (held.letGo lock.layer) j

/-- What other threads may do to a junction keeps the property. -/
def Stable (P : Junction → Prop) : Prop := ∀ j i : Junction, P j → j.Yields i → P i

theorem mem_acquire {held : HeldLayers} {lock : Lock} (h : lock ≠ .scheduler) :
    Layer.scheduler ∈ held.acquire lock.layer ↔ .scheduler ∈ held := by
  rw [HeldLayers.acquire, List.mem_append, List.mem_singleton]
  exact or_iff_left (Lock.layer_ne_scheduler h).symm

theorem mem_letGo {held : HeldLayers} {lock : Lock} (h : lock ≠ .scheduler) :
    Layer.scheduler ∈ held.letGo lock.layer ↔ .scheduler ∈ held := by
  rw [← List.count_pos_iff, HeldLayers.count_letGo, if_neg (Lock.layer_ne_scheduler h), List.count_pos_iff]

namespace Safe

variable {Q : α → HeldLayers → Junction → Prop}

theorem yields (hQ : ∀ a held, Stable (Q a held)) : ∀ {r : Routine α} {held : HeldLayers} {j i : Junction},
    r.Safe Q held j → j.Yields i → r.Safe Q held i
  | done a, held, _, _, h, y => hQ a held _ _ h y
  | perform _ _, _, _, _, h, y => ⟨h.1, fun hs _ y' he => h.2 hs _ (y.trans y') he⟩
  | ask _ _, _, _, _, h, y => ⟨h.1, yields hQ h.2 y⟩
  | take _ _, _, _, _, h, y => ⟨fun hl => yields hQ (h.1 hl) y, h.2⟩
  | drop _ _, _, _, _, h, y => ⟨fun hl => ⟨(h.1 hl).1, (h.1 hl).2.yields y⟩, yields hQ h.2 y⟩

/-- Without the scheduler's lock a routine counts on nothing. -/
theorem of_not_mem (hQ : ∀ a held j i, .scheduler ∉ held → Q a held j → Q a held i) :
    ∀ {r : Routine α} {held : HeldLayers} {j i : Junction}, .scheduler ∉ held → r.Safe Q held j → r.Safe Q held i
  | done a, held, j, i, hs, h => hQ a held j i hs h
  | perform _ _, _, _, _, hs, h => ⟨h.1, fun hs' => absurd hs' hs⟩
  | ask _ _, _, _, _, hs, h => ⟨h.1, of_not_mem hQ hs h.2⟩
  | take _ _, _, _, _, hs, h => ⟨fun hl => of_not_mem hQ (fun hm => hs ((mem_acquire hl).1 hm)) (h.1 hl), h.2⟩
  | drop lock _, _, _, _, hs, h => by
    by_cases hl : lock = .scheduler
    · exact absurd (h.1 hl).1 hs
    · exact ⟨fun e => absurd e hl, of_not_mem hQ (fun hm => hs ((mem_letGo hl).1 hm)) h.2⟩

theorem bind {R : β → HeldLayers → Junction → Prop} {k : α → Routine β} :
    ∀ {r : Routine α} {held : HeldLayers} {j : Junction}, r.Safe Q held j →
      (∀ a held j, Q a held j → (k a).Safe R held j) → (r >>= k).Safe R held j
  | done a, held, j, h, hk => hk a held j h
  | perform _ _, _, _, h, hk =>
    ⟨fun hs => (h.1 hs).mono fun _ hb i => bind (hb i) hk, fun hs i y he => by
      obtain ⟨b, i', hrun, hex, hb⟩ := h.2 hs i y he
      exact ⟨b, i', hrun, hex, bind hb hk⟩⟩
  | ask _ _, _, _, h, hk => ⟨h.1, bind h.2 hk⟩
  | take _ _, _, _, h, hk => ⟨fun hl => bind (h.1 hl) hk, fun hl => ⟨(h.2 hl).1, fun i hi => bind ((h.2 hl).2 i hi) hk⟩⟩
  | drop _ _, _, _, h, hk => ⟨h.1, bind h.2 hk⟩

theorem mono {R : α → HeldLayers → Junction → Prop} (hQR : ∀ a held j, Q a held j → R a held j) :
    ∀ {r : Routine α} {held : HeldLayers} {j : Junction}, r.Safe Q held j → r.Safe R held j
  | done a, held, j, h => hQR a held j h
  | perform _ _, _, _, h =>
    ⟨fun hs => (h.1 hs).mono fun _ hb i => mono hQR (hb i), fun hs i y he => by
      obtain ⟨b, i', hrun, hex, hb⟩ := h.2 hs i y he
      exact ⟨b, i', hrun, hex, mono hQR hb⟩⟩
  | ask _ _, _, _, h => ⟨h.1, mono hQR h.2⟩
  | take _ _, _, _, h => ⟨fun hl => mono hQR (h.1 hl), fun hl => ⟨(h.2 hl).1, fun i hi => mono hQR ((h.2 hl).2 i hi)⟩⟩
  | drop _ _, _, _, h => ⟨h.1, mono hQR h.2⟩

end Safe

/-! ## Triples -/

/-- From a junction with the first property the routine is safe, gives back its locks and leaves the second property. -/
def Triple (P : Junction → Prop) (r : Routine α) (held : HeldLayers) (Q : α → Junction → Prop) : Prop :=
  ∀ j, P j → r.Safe (fun a held' i => held' = held ∧ Q a i) held j

/-- The routine is safe without any lock, whatever the junction, and answers something of a kind. -/
def Free (r : Routine α) (Q : α → Prop) : Prop := Triple (fun _ => True) r [] (fun a _ => Q a)

namespace Triple

variable {P P' : Junction → Prop} {Q Q' : α → Junction → Prop} {R : β → Junction → Prop} {held : HeldLayers}

theorem pure {a : α} (h : ∀ j, P j → Q a j) : Triple P (pure a) held Q := fun j hj => ⟨rfl, h j hj⟩

theorem bind {r : Routine α} {k : α → Routine β} (h : Triple P r held Q) (hk : ∀ a, Triple (Q a) (k a) held R) :
    Triple P (r >>= k) held R := by
  intro j hj
  refine (h j hj).bind fun a held' i hi => ?_
  obtain ⟨rfl, hq⟩ := hi
  exact hk a i hq

theorem conseq {r : Routine α} (h : Triple P r held Q) (hP : ∀ j, P' j → P j) (hQ : ∀ a j, Q a j → Q' a j) :
    Triple P' r held Q' := fun j hj => (h j (hP j hj)).mono fun a _ i hi => ⟨hi.1, hQ a i hi.2⟩

theorem under {lock : Lock} {r : Routine α} (hl : lock ≠ .scheduler) (ho : held.obstacle lock.layer = none)
    (h : Triple P r (held.acquire lock.layer) Q) : Triple P (under lock r) held Q := by
  intro j hj
  refine ⟨ho, fun _ => ?_, fun e => absurd e hl⟩
  refine (h j hj).bind fun a held' i hi => ?_
  obtain ⟨rfl, hq⟩ := hi
  exact ⟨fun e => absurd e hl, held.letGo_acquire lock.layer, hq⟩

theorem act_free {a : Act α} {Q : α → Prop} (hs : .scheduler ∉ held) (h : a.Yielding Q) :
    Triple (fun _ => True) (act a) held (fun b _ => Q b) := fun _ _ =>
  ⟨fun _ => h.mono fun _ hb _ => ⟨rfl, hb⟩, fun hs' => absurd hs' hs⟩

theorem act_locked {a : Act α} (hs : .scheduler ∈ held) (hP : Stable P)
    (h : ∀ j, P j → j.Exclusive → ∃ b i, a.runOn j = (.ok b, i) ∧ i.Exclusive ∧ Q b i) : Triple P (act a) held Q := by
  intro j hj
  refine ⟨fun hs' => absurd hs hs', fun _ i y he => ?_⟩
  obtain ⟨b, k, hrun, hex, hq⟩ := h i (hP j i hj y) he
  exact ⟨b, k, hrun, hex, rfl, hq⟩

end Triple

namespace Free

variable {Q : α → Prop} {R : β → Prop}

theorem pure {a : α} (h : Q a) : Free (pure a) Q := Triple.pure fun _ _ => h

theorem bind {r : Routine α} {k : α → Routine β} (h : r.Free Q) (hk : ∀ a, Q a → (k a).Free R) : (r >>= k).Free R :=
  Triple.bind h fun a j ha => hk a ha j trivial

theorem ite {c : Prop} [Decidable c] {r s : Routine α} (hr : r.Free Q) (hs : s.Free Q) :
    (if c then r else s).Free Q := by
  split
  · exact hr
  · exact hs

theorem discard {r : Routine α} (h : r.Free Q) : Free (discard r) (fun _ => True) :=
  .bind h fun _ _ => .pure trivial

theorem act {a : Act α} (h : a.Yielding Q) : (act a).Free Q := .act_free List.not_mem_nil h

theorem locked {lock : Lock} {a : Act α} (hl : lock ≠ .scheduler) (h : a.Yielding Q) : (locked lock a).Free Q := by
  have hs : Layer.scheduler ∉ HeldLayers.acquire [] lock.layer := fun hm => List.not_mem_nil ((mem_acquire hl).1 hm)
  exact .under hl rfl (.act_free hs h)

theorem look {f : Junction → α} : (Routine.act (Act.look f)).Free (fun _ => True) := .act (.look f fun _ => trivial)

theorem lookLocked {lock : Lock} {f : Junction → α} (hl : lock ≠ .scheduler) :
    (Routine.locked lock (Act.look f)).Free (fun _ => True) := .locked hl (.look f fun _ => trivial)

theorem perLane {f : Lane → Routine α} (h : ∀ l, (f l).Free (fun _ => True)) :
    (perLane f).Free (fun _ => True) :=
  .bind (h .north) fun _ _ => .bind (h .south) fun _ _ => .bind (h .east) fun _ _ => .bind (h .west) fun _ _ =>
    .pure trivial

theorem collectLanes {f : Lane → Routine Bool} (h : ∀ l, (f l).Free (fun _ => True)) :
    ∀ ls : List Lane, (collectLanes f ls).Free (fun _ => True)
  | [] => .pure trivial
  | l :: ls => .bind (h l) fun _ _ => .bind (collectLanes h ls) fun _ _ => .pure trivial

/-- Under the scheduler's lock a routine starts from a linked junction and has to leave one. -/
theorem scheduler {r : Routine α} (h : Triple Junction.Linked r [.scheduler] (fun a j => j.Linked ∧ Q a)) :
    (Routine.under .scheduler r).Free Q := by
  intro j _
  refine ⟨rfl, fun e => absurd rfl e, fun _ => ⟨List.not_mem_nil, fun i hi => ?_⟩⟩
  refine (h i hi).bind fun a held' k hk => ?_
  obtain ⟨rfl, hlinked, hq⟩ := hk
  exact ⟨fun _ => ⟨List.mem_singleton_self _, hlinked⟩, rfl, hq⟩

end Free
end Routine
end Crossroads
