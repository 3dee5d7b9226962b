import Crossroads.Proofs.Traffic.Events
/-!
# The contract of the allocator

Whatever requests, retries and releases came before, an allocator keeps its bounds and answers the next call by the same
rules (`Allocator.becomes_contract`).  A junction makes no other use of its allocator (`Operation.becomes`), so a retry
is never invalid there, and no lane goes on without what it asked for.
-/
namespace Crossroads

open Act

variable {a : Allocator} {j : Junction} {l : Lane} {n : Nat}

/-! ## The calls of a junction -/

theorem Junction.Deals.of_eq {i : Junction} (h : i.allocator = j.allocator) : j.Deals i := by
  rw [Deals, h]
  exact .refl

theorem tryOnLane_deals (l : Lane) (f : Approach → Except TrafficError Approach) :
    (tryOnLane l f).Moves Junction.Deals := Moves.of_lane fun _ _ _ => .of_eq rfl

theorem dequeueVehicle_deals (l : Lane) : (dequeueVehicle l).Moves Junction.Deals :=
  .bind .get fun _ => .bind (.ofExcept _) fun _ => .bind (fun _ => .of_eq rfl) fun _ => .pure _

theorem generateArrival_deals (l : Lane) (emergency : Option EmergencyKind) :
    (generateArrival l emergency).Moves Junction.Deals := fun j => by
  rw [runOn_generateArrival]
  cases (j.lanes.get l).enqueue (j.incoming emergency) <;> exact .of_eq rfl

theorem triggerEmergency_deals (l : Lane) (kind : EmergencyKind) :
    (triggerEmergency l kind).Moves Junction.Deals :=
  Moves.composes.triggerEmergency fun _ _ => .of_eq rfl

theorem command_deals : ∀ c : Command, c.apply.Moves Junction.Deals
  | .pause | .resume | .shutdown => fun _ => .of_eq rfl
  | .setPolicy p => .bind .get fun _ => .bind (swapPolicy_quiet p).deals fun _ => .pure _
  | .triggerEmergency lane kind => .bind (.ofExcept (Lane.ofIndex lane)) fun l => triggerEmergency_deals l kind

/-- **Operations use the allocator by its calls only**, also when they are refused. -/
theorem Operation.becomes (op : Operation) (j : Junction) : j.allocator.Becomes (op.next j).allocator := by
  suffices h : op.perform.Moves Junction.Deals from h j
  cases op with
  | enqueue l v => exact .bind (Moves.composes.enqueueVehicle (tryOnLane_deals l _)) fun _ => .pure _
  | enqueueNow l id =>
    exact .bind .get fun _ => .bind (Moves.composes.enqueueVehicle (tryOnLane_deals l _)) fun _ => .pure _
  | dequeue l => exact .bind (dequeueVehicle_deals l) fun _ => .pure _
  | tickLane l => exact .bind (Moves.composes.tickLane (tryOnLane_deals l _)) fun _ => .pure _
  | setState l s => exact .bind (tryOnLane_deals l _) fun _ => .pure _
  | schedule => exact .bind scheduleNext_orderly.deals fun _ => .pure _
  | slice l => exact .bind (executeSlice_orderly l).deals fun _ => .pure _
  | complete l => exact .bind (completeEmergency_orderly l).deals fun _ => .pure _
  | setPolicy p => exact .bind (swapPolicy_quiet p).deals fun _ => .pure _
  | checkExclusion => exact .bind reports_quiet.checkMutualExclusion.deals fun _ => .pure _
  | request l count => exact .bind (Quiet.request l count).deals fun _ => .bind (.ofExcept _) fun _ => .pure _
  | retry l => exact .bind (Quiet.retry l).deals fun _ => .bind (.ofExcept _) fun _ => .pure _
  | release l => exact .bind (Quiet.release l).deals fun _ => .pure _
  | sweep => exact .bind (sweeps_quiet.breakCycles 4).deals fun _ => .pure _
  | raise | resolve => exact .bind (fun _ => .of_eq rfl) fun _ => .pure _
  | recordGenerated | recordOverflow | recordDenial | recordDeadlockResolved | recordContextSwitch
    | recordEmergencyHandled => exact .bind (fun _ => .of_eq rfl) fun _ => .pure _
  | sleep ms => exact .bind (Quiet.sleep ms).deals fun _ => .pure _
  | arrive l kind => exact .bind (generateArrival_deals l kind) fun _ => .pure _
  | step => exact .bind step_orderly.deals fun _ => .pure _
  | emergency l kind => exact .bind (triggerEmergency_deals l kind) fun _ => .pure _
  | revalidate => exact .bind admits_quiet.revalidateBlocked.deals fun _ => .pure _
  | command c => exact .bind (command_deals c) fun _ => .pure _
  | advance | setClock | requestStop | pause | resume => exact fun _ => .of_eq rfl

/-- A retry that fails is a denial, and its lane stays blocked: no other error is ever settled. -/
theorem runOn_revalidate_of_error (h : j.allocator.Bounded) (hb : j.isBlocked l = true) {e : TrafficError}
    (he : (j.allocator.retryPending l).1 = .error e) :
    (revalidate l).runOn j = (.ok false, { j with allocator := (j.allocator.retryPending l).2 }) := by
  have hdenied := h.retryPending_denied he
  unfold revalidate
  rw [runOn_bind_of_ok (runOn_get j), if_pos hb, runOn_bind_of_ok (runOn_onAllocator _ j), he, hdenied]
  rfl

/-! ## The contract -/

namespace Allocator

structure Contract (a : Allocator) : Prop where
  held : a.allocation.sum ≤ a.total
  asked : ∀ l, a.allocation.get l + a.request.get l ≤ a.total
  /-- Sums that are kept to a byte come out. -/
  bytes : a.availableInBytes? = some a.available ∧ ∀ l n, a.requestInBytes? l n = some (a.requestQuadrants l n)
  granted_iff : ∀ l n, (∃ free, (a.requestQuadrants l n).1 = .ok free) ↔ a.Grantable l n
  granted : ∀ l n free, (a.requestQuadrants l n).1 = .ok free →
    (a.requestQuadrants l n).2 =
        { a with allocation := a.allocation.set l (a.allocation.get l + n), request := a.request.set l 0 } ∧
      free = (a.requestQuadrants l n).2.available
  refused : ∀ l n e, (a.requestQuadrants l n).1 = .error e →
    ((∃ reason, e = .invalidRequest l n reason) ∧ (a.requestQuadrants l n).2 = a) ∨
      (e = .resourceDenied l n a.available ∧ (a.requestQuadrants l n).2 = { a with request := a.request.set l n })
  retried : ∀ l e, (a.retryPending l).1 = .error e → e = .resourceDenied l (a.request.get l) a.available
  /-- A blocked lane of a junction whose retry fails stays blocked, whatever the junction. -/
  revalidated : ∀ (j : Junction) l e, j.allocator = a → j.isBlocked l = true → (a.retryPending l).1 = .error e →
    (revalidate l).runOn j = (.ok false, { j with allocator := (a.retryPending l).2 })

theorem Bounded.contract (h : a.Bounded) (hbyte : a.total < 256) : a.Contract where
  held := h.held
  asked := h.asked
  bytes := ⟨availableInBytes?_eq (Nat.lt_of_le_of_lt h.held hbyte), h.requestInBytes hbyte⟩
  granted_iff l n := ⟨fun ⟨_, hok⟩ => (granted_of_ok hok).1, fun g => ⟨_, ok_of_grantable g⟩⟩
  granted l n free hok := by
    obtain ⟨-, hstate, hfree⟩ := granted_of_ok hok
    rw [hstate]
    exact ⟨rfl, hfree⟩
  refused l n e he := refused_of_error he
  retried l e he := h.retryPending_denied he
  revalidated j l e hj hb he := by
    subst hj
    exact runOn_revalidate_of_error h hb he

/-- **The contract of the allocator.** It holds of a fresh allocator of any number of quadrants that is a byte, after
any requests, retries and releases; and what the operations of a junction do to such an allocator is of that kind. -/
theorem becomes_contract (total : UInt8) (h : Becomes { total := total.toNat } a) :
    a.Contract ∧ ∀ (j : Junction) (op : Operation), j.allocator = a →
      Becomes { total := total.toNat } (op.next j).allocator := by
  have hbyte : a.total < 256 := by
    rw [h.total_eq]
    exact total.toNat_lt
  refine ⟨(h.bounded .fresh).contract hbyte, fun j op hj => h.trans ?_⟩
  subst hj
  exact op.becomes j

/-- The north holds two of four quadrants, the south was denied three, and the east may still have one. -/
theorem becomes_contract_four : ∃ a : Allocator, a.request.get .south = 3 ∧ a.Contract ∧ a.Grantable .east 1 := by
  let a₀ : Allocator := { total := (4 : UInt8).toNat }
  let a₁ : Allocator := (a₀.requestQuadrants .north 2).2
  let a₂ : Allocator := (a₁.requestQuadrants .south 3).2
  have h : a₀.Becomes a₂ := (Becomes.refl.request .north 2).request .south 3
  obtain ⟨hcontract, -⟩ := becomes_contract 4 h
  exact ⟨a₂, by decide, hcontract, (hcontract.granted_iff .east 1).1 ⟨1, by decide⟩⟩

end Allocator
end Crossroads
