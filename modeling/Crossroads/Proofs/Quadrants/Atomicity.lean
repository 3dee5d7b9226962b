import Crossroads.Proofs.Quadrants.Requests
import Crossroads.Quadrants.Callers
/-!
# Calls that come between each other

A retry asks for what it has read a section before.  As long as that is still what is pending, it takes effect at once
when it asks, and threads that take turns section by section do what they would do call by call, in the order in which
their calls take effect (`Callers.inOrder_of_current`).  If a release has dropped it in between, it is granted all the
same, as in no order of the calls (`Callers.retry_grants_dropped`).
-/
namespace Crossroads

variable {c : Caller} {a : Allocator} {l : Lane} {n : Nat}

/-! ## One thread -/

theorem Allocator.retryPending_eq_retry (h : a.request.get l = n) : a.retryPending l = a.retry l n := by
  rw [retryPending, h]

namespace Caller

/-- The thread as it is if the retry it is at has read nothing. -/
def rolledBack (c : Caller) : Caller := { c with pending := none }

/-- What a retry has read is what is pending now. -/
def Current (c : Caller) (a : Allocator) : Prop :=
  ∀ l rest n, c.calls = .retry l :: rest → c.pending = some n → a.request.get l = n

theorem rolledBack_eq_self (h : c.pending = none) : c.rolledBack = c := by
  rw [rolledBack, ← h]

@[simp] theorem answered_rolledBack (reply : AllocatorReply) : c.rolledBack.answered reply = c.answered reply := rfl

@[simp] theorem rolledBack_answered (reply : AllocatorReply) : (c.answered reply).rolledBack = c.answered reply := rfl

theorem callAtOnce_eq_self (h : c.calls = []) : c.callAtOnce a = (c, a) := by
  simp [callAtOnce, h]

/-- **A section is nothing to be seen, or a whole call.** -/
theorem proceed_cases (h : c.Current a) :
    ((c.proceed a).1.rolledBack, (c.proceed a).2) = (c.rolledBack, a) ∨
      ((c.proceed a).1.rolledBack, (c.proceed a).2) = c.rolledBack.callAtOnce a := by
  cases hcalls : c.calls with
  | nil =>
    left
    simp [proceed, hcalls]
  | cons call rest =>
    have hwhole : c.rolledBack.callAtOnce a = (c.answered (a.call call).1, (a.call call).2) := by
      have hfirst : c.rolledBack.calls = call :: rest := hcalls
      simp [callAtOnce, hfirst]
    rw [hwhole]
    cases call with
    | request l count =>
      right
      simp [proceed, hcalls]
    | release l =>
      right
      simp [proceed, hcalls]
    | retry l =>
      cases hpending : c.pending with
      | none =>
        -- A retry that finds nothing pending is over; one that finds something has only looked.
        by_cases h0 : a.request.get l = 0
        · right
          simp [proceed, hcalls, hpending, h0, Allocator.call, Allocator.retryPending_eq_retry h0, Allocator.retry]
        · left
          simp [proceed, hcalls, hpending, h0, rolledBack]
      | some n =>
        right
        have hn : a.request.get l = n := h l rest n hcalls hpending
        simp [proceed, hcalls, hpending, Allocator.call, Allocator.retryPending_eq_retry hn]

theorem proceed_pending (h : c.calls = [] → c.pending = none) :
    (c.proceed a).1.calls = [] → (c.proceed a).1.pending = none := by
  cases hcalls : c.calls with
  | nil => simpa [proceed, hcalls] using h hcalls
  | cons call rest =>
    cases call with
    | request | release => simp [proceed, hcalls, answered]
    | retry l =>
      cases hpending : c.pending with
      | none => by_cases h0 : a.request.get l = 0 <;> simp [proceed, hcalls, hpending, h0, answered]
      | some n => simp [proceed, hcalls, hpending, answered]

end Caller

/-! ## All threads -/

namespace Callers

variable {ι : Type} {s : Callers ι} {i : ι}

def rolledBack (s : Callers ι) : Callers ι where
  allocator := s.allocator
  caller i := (s.caller i).rolledBack

theorem rolledBack_eq_self (h : ∀ i, (s.caller i).pending = none) : s.rolledBack = s := by
  have hcaller : (fun i => (s.caller i).rolledBack) = s.caller := funext fun i => Caller.rolledBack_eq_self (h i)
  rw [rolledBack, hcaller]

variable [DecidableEq ι]

/-- Whenever a thread goes on with a retry, what it has read is what is pending. -/
def Current (s : Callers ι) : List ι → Prop
  | []      => True
  | i :: is => (s.caller i).Current s.allocator ∧ (s.proceed i).Current is

theorem rolledBack_update (r : Caller × Allocator) :
    (s.update i r).rolledBack = s.rolledBack.update i (r.1.rolledBack, r.2) := by
  simp only [rolledBack, update, mk.injEq, true_and]
  funext k
  by_cases hk : k = i
  · subst hk
    simp
  · simp [Function.update_of_ne hk]

theorem update_eq_self : s.update i (s.caller i, s.allocator) = s := by
  simp [update]

theorem rolledBack_proceed (h : (s.caller i).Current s.allocator) :
    (s.proceed i).rolledBack = s.rolledBack ∨ (s.proceed i).rolledBack = s.rolledBack.callAtOnce i := by
  rw [proceed, rolledBack_update]
  rcases Caller.proceed_cases h with hstep | hstep
  · left
    rw [hstep]
    exact update_eq_self (s := s.rolledBack)
  · right
    rw [hstep]
    rfl

/-- What can be seen of a schedule comes about call by call. -/
theorem rolledBack_after : ∀ (schedule : List ι) {s : Callers ι}, s.Current schedule →
    ∃ order, s.rolledBack.inOrder order = (s.after schedule).rolledBack
  | [], s, _ => ⟨[], rfl⟩
  | i :: is, s, h => by
    obtain ⟨order, horder⟩ := rolledBack_after is h.2
    rcases rolledBack_proceed h.1 with hstep | hstep
    · rw [hstep] at horder
      exact ⟨order, horder⟩
    · rw [hstep] at horder
      exact ⟨i :: order, horder⟩

theorem pending_after : ∀ (schedule : List ι) {s : Callers ι},
    (∀ i, (s.caller i).calls = [] → (s.caller i).pending = none) →
    ∀ i, ((s.after schedule).caller i).calls = [] → ((s.after schedule).caller i).pending = none
  | [], _, h => h
  | k :: ks, s, h => by
    refine pending_after ks fun i => ?_
    by_cases hi : i = k
    · subst hi
      simpa [proceed, update] using Caller.proceed_pending (h i)
    · simpa [proceed, update, Function.update_of_ne hi] using h i

/-- **Calls are atomic as long as a retry finds what it has read.** Threads that take turns section by section, until
all their calls are made, have the same answers and the same allocator as in some order of the calls. -/
theorem inOrder_of_current (hstart : ∀ i, (s.caller i).pending = none) (schedule : List ι) (h : s.Current schedule)
    (hdone : (s.after schedule).Done) : ∃ order, s.inOrder order = s.after schedule := by
  obtain ⟨order, horder⟩ := rolledBack_after schedule h
  have hend : ∀ i, ((s.after schedule).caller i).pending = none := fun i =>
    pending_after schedule (fun i _ => hstart i) i (hdone i)
  rw [rolledBack_eq_self hstart, rolledBack_eq_self hend] at horder
  exact ⟨order, horder⟩

/-! ## A request that was dropped -/

/-- The south was denied two quadrants, and all are free since; one thread retries its request, the other drops it. -/
def retrying : Callers Bool where
  allocator := (((({} : Allocator).requestQuadrants .north 4).2.requestQuadrants .south 2).2.release .north).2
  caller i := if i then { calls := [.retry .south] } else { calls := [.release .south] }

/-- The release comes after the retry. -/
theorem inOrder_of_current_retrying : (∀ i, (retrying.caller i).pending = none) ∧
    retrying.Current [true, true, false] ∧ (retrying.after [true, true, false]).Done ∧
      ∃ order, retrying.inOrder order = retrying.after [true, true, false] := by
  have hstart : ∀ i, (retrying.caller i).pending = none := by decide
  have hcurrent : retrying.Current [true, true, false] := by
    refine ⟨fun l rest n _ hn => ?_, fun l rest n hcalls hn => ?_, fun l rest n _ hn => ?_, trivial⟩
    · cases hn
    · cases hcalls
      cases hn
      rfl
    · cases hn
  have hdone : (retrying.after [true, true, false]).Done := by
    intro i
    cases i <;> decide
  exact ⟨hstart, hcurrent, hdone, inOrder_of_current hstart _ hcurrent hdone⟩

/-- One thread has but to retry the request of a lane, the other to release the lane, and once it has, the lane has and
wants nothing. -/
structure Releases (s : Callers Bool) (l : Lane) : Prop where
  retries : ∀ call ∈ (s.caller true).calls, call = .retry l
  releases : ∀ call ∈ (s.caller false).calls, call = .release l
  dropped : (s.caller false).calls = [] → s.allocator.allocation.get l = 0 ∧ s.allocator.request.get l = 0

/-- In an order of the calls, a retry after the release finds nothing. -/
theorem Releases.callAtOnce {s : Callers Bool} {l : Lane} (h : s.Releases l) (i : Bool) :
    (s.callAtOnce i).Releases l := by
  cases hcalls : (s.caller i).calls with
  | nil => rwa [Callers.callAtOnce, Caller.callAtOnce_eq_self hcalls, update_eq_self]
  | cons call rest =>
    cases i with
    | true =>
      have hcall : call = .retry l := h.retries call (by simp [hcalls])
      have hrest : ∀ c ∈ rest, c = .retry l := fun c hc => h.retries c (by simp [hcalls, hc])
      refine ⟨?_, ?_, fun hnil => ?_⟩
      · simpa [Callers.callAtOnce, update, Caller.callAtOnce, hcalls, Caller.answered] using hrest
      · simpa [Callers.callAtOnce, update, Caller.callAtOnce, hcalls] using h.releases
      · have hdropped := h.dropped (by simpa [Callers.callAtOnce, update] using hnil)
        simpa [Callers.callAtOnce, update, Caller.callAtOnce, hcalls, hcall, Allocator.call,
          Allocator.retryPending_eq_retry hdropped.2, Allocator.retry] using hdropped
    | false =>
      have hcall : call = .release l := h.releases call (by simp [hcalls])
      have hrest : ∀ c ∈ rest, c = .release l := fun c hc => h.releases c (by simp [hcalls, hc])
      refine ⟨?_, ?_, fun _ => ?_⟩
      · simpa [Callers.callAtOnce, update, Caller.callAtOnce, hcalls] using h.retries
      · simpa [Callers.callAtOnce, update, Caller.callAtOnce, hcalls, Caller.answered] using hrest
      · simp [Callers.callAtOnce, update, Caller.callAtOnce, hcalls, hcall, Allocator.call, Allocator.release]

theorem Releases.inOrder {l : Lane} : ∀ (order : List Bool) {s : Callers Bool}, s.Releases l →
    (s.inOrder order).Releases l
  | [], _, h => h
  | i :: is, _, h => Releases.inOrder is (h.callAtOnce i)

/-- **A retry is granted what a release has dropped**, if the release comes between its two sections: nothing of the
kind comes about in any order of the two calls. -/
theorem retry_grants_dropped : ∃ (s : Callers Bool) (schedule : List Bool),
    Allocator.Becomes {} s.allocator ∧ (∀ i, (s.caller i).pending = none) ∧ (s.after schedule).Done ∧
      ((s.after schedule).caller false).replies = [.released 0] ∧
      ((s.after schedule).caller true).replies = [.retried (.ok (some 2))] ∧
      (s.after schedule).allocator.allocation.get .south = 2 ∧ ∀ order, s.inOrder order ≠ s.after schedule := by
  refine ⟨retrying, [true, false, true], ((Allocator.Becomes.refl.request .north 4).request .south 2).release .north,
    by decide, ?_, rfl, rfl, by decide, fun order horder => ?_⟩
  · intro i
    cases i <;> decide
  · have hstart : retrying.Releases .south := ⟨by decide, by decide, by decide⟩
    have hend := hstart.inOrder order
    rw [horder] at hend
    have hnone := (hend.dropped (by decide)).1
    revert hnone
    decide

end Callers
end Crossroads
