import Crossroads.Proofs.Steps.HandsOff
/-!
# Tidy traffic

Whatever is done to a junction, also by hand, the cached length of a lane is that of its queue, and a pending emergency
is that of its own lane and as heavy as its kind (`Junction.Reachable.tidy`).
-/
namespace Crossroads

open Act

variable {α : Type} {j : Junction} {l : Lane} {allowed : Operation → Prop}

/-! ## Emergencies -/

namespace Emergencies

variable {em : Emergencies}

/-- Every pending emergency is that of its own lane, and as heavy as its kind. -/
structure Tidy (em : Emergencies) : Prop where
  placed : em.Placed
  weighed : ∀ l ev, em.slots.get l = some ev → ev.priority = ev.kind.weight

theorem Tidy.trigger (h : em.Tidy) (l : Lane) (kind : EmergencyKind) (tick : Nat) : (em.trigger l kind tick).2.Tidy :=
  ⟨h.placed.trigger l kind tick, forall_trigger h.weighed rfl fun _ _ => rfl⟩

theorem Tidy.resolve (h : em.Tidy) (l : Lane) : (em.resolve l).2.Tidy := ⟨h.placed.resolve l, forall_resolve h.weighed l⟩

end Emergencies

/-! ## Lanes -/

structure Traffic.Tidy (t : Traffic) : Prop where
  cached : t.Cached
  emergencies : t.emergencies.Tidy

theorem LaneTraffic.cached_letIn (t : LaneTraffic) (v : Vehicle) : (t.letIn v).Cached := by
  show t.queue.length + 1 = (t.queue.vehicles ++ [v]).length
  rw [List.length_append]
  rfl

theorem Traffic.Cached.set {t : Traffic} (h : t.Cached) (l : Lane) {t' : LaneTraffic} (ht : t'.Cached) :
    Traffic.Cached { t with lanes := t.lanes.set l t' } := by
  intro m
  show ((t.lanes.set l t').get m).Cached
  rw [PerLane.get_set]
  split
  · exact ht
  · exact h m

theorem Traffic.Tidy.serve {t : Traffic} (h : t.Tidy) (l : Lane) (n : Nat) : (t.serve l n).Tidy :=
  ⟨h.cached.set l ((h.cached l).serve n), h.emergencies⟩

theorem Junction.tidy_set_lane (h : j.traffic.Tidy) (l : Lane) {a : Approach} (ha : a.traffic.Cached) :
    ({ j with lanes := j.lanes.set l a } : Junction).traffic.Tidy := by
  rw [traffic_set_lane]
  exact ⟨h.cached.set l ha, h.emergencies⟩

theorem Approach.cached_of_dequeue {a b : Approach} {v : Vehicle} (h : a.dequeue = .ok (v, b)) : b.traffic.Cached := by
  obtain ⟨vs, -, rfl⟩ := dequeue_eq_ok_iff.1 h
  rfl

/-! ## Actions that keep order -/

def Junction.TidiesTo (j i : Junction) : Prop := j.traffic.Tidy → i.traffic.Tidy

instance : IsPreorder Junction Junction.TidiesTo where
  refl _ h := h
  trans _ _ _ h h' ht := h' (h ht)

/-- An action after which tidy traffic is tidy, however the action ends. -/
def Act.Tidies (a : Act α) : Prop := a.Moves Junction.TidiesTo

namespace Act

theorem Quiet.tidies {a : Act α} (h : a.Quiet) : a.Tidies := fun j hj => by
  show (a.runOn j).2.traffic.Tidy
  rwa [h.traffic j]

end Act

namespace Junction.TidiesTo

theorem onScheduler (f : Scheduler → Scheduler) : (onScheduler f).Tidies := fun _ hj => ⟨hj.cached, hj.emergencies⟩

theorem onMetrics (f : Metrics → Metrics) : (onMetrics f).Tidies := fun _ hj => ⟨hj.cached, hj.emergencies⟩

theorem onEmergencies {f : Emergencies → α × Emergencies} (h : ∀ e, e.Tidy → (f e).2.Tidy) :
    (onEmergencies f).Tidies := fun j hj => ⟨hj.cached, h j.emergencies hj.emergencies⟩

theorem tryOnLane (l : Lane) {f : Approach → Except TrafficError Approach}
    (h : ∀ a b, f a = .ok b → b.traffic.Cached) : (tryOnLane l f).Tidies :=
  Moves.of_lane fun _ b hb hj => Junction.tidy_set_lane hj l (h _ b hb)

end Junction.TidiesTo

/-! ## What a junction does -/

theorem enqueueVehicle_tidies (l : Lane) (v : Vehicle) : (enqueueVehicle l v).Tidies := by
  refine Moves.composes.enqueueVehicle (.tryOnLane l fun a b h => ?_)
  obtain ⟨-, rfl⟩ := Approach.enqueue_eq_ok_iff.1 h
  exact a.traffic.cached_letIn v

theorem dequeueVehicle_tidies (l : Lane) : (dequeueVehicle l).Tidies := by
  intro j hj
  unfold dequeueVehicle
  rw [runOn_bind_of_ok (runOn_get j)]
  cases h : (j.lanes.get l).dequeue with
  | error e => exact hj
  | ok r => exact Junction.tidy_set_lane hj l (Approach.cached_of_dequeue h)

theorem generateArrival_tidies (l : Lane) (emergency : Option EmergencyKind) :
    (generateArrival l emergency).Tidies := by
  intro j hj
  rw [runOn_generateArrival]
  cases h : (j.lanes.get l).enqueue (j.incoming emergency) with
  | error e => exact ⟨hj.cached, hj.emergencies⟩
  | ok a =>
    have hcached : a.traffic.Cached := by
      obtain ⟨-, rfl⟩ := Approach.enqueue_eq_ok_iff.1 h
      exact (j.lanes.get l).traffic.cached_letIn _
    exact ⟨(Junction.tidy_set_lane hj l hcached).cached,
      Emergencies.triggerArrived_of hj.emergencies (hj.emergencies.trigger l · _) emergency⟩

theorem triggerEmergency_tidies (l : Lane) (kind : EmergencyKind) : (triggerEmergency l kind).Tidies :=
  Moves.composes.triggerEmergency fun _ => .onEmergencies fun _ h => h.trigger l kind _

theorem scheduleNext_tidies : scheduleNext.Tidies :=
  Moves.composes.scheduleNext (.onScheduler _) fun due => (serveDue_quiet due).tidies

theorem openSlice_tidies (l : Lane) (startMs : Nat) : (openSlice l startMs).Tidies := by
  intro j hj
  obtain ⟨opened, i, hrun⟩ : ∃ opened i, (openSlice l startMs).runOn j = (.ok opened, i) := by
    unfold openSlice
    rw [runOn_bind_of_ok (runOn_get j)]
    dsimp only
    split <;> exact ⟨_, _, rfl⟩
  rw [hrun]
  rcases openSlice_ok hj.cached hrun with ⟨-, ht⟩ | ⟨n, -, -, ht⟩ <;> rw [ht]
  · exact hj
  · exact hj.serve l n

theorem executeSlice_tidies (l : Lane) : (executeSlice l).Tidies :=
  Moves.composes.executeSlice (openSlice_tidies l) fun _ _ => (finishSlice_quiet l _ _).tidies

theorem completeEmergency_tidies (l : Lane) : (completeEmergency l).Tidies :=
  Moves.composes.completeEmergency (.onEmergencies fun _ h => h.resolve l) fun _ => .onMetrics _

theorem serveDecided_tidies (target : Option Lane) : (serveDecided target).Tidies :=
  Moves.composes.serveDecided (fun l => (admits_quiet.admitLane l).tidies) executeSlice_tidies
    (fun l => Moves.composes.completeServed (completeEmergency_tidies l)) (fun l => (admits_quiet.releaseLane l).tidies)
    target

theorem step_tidies : step.Tidies :=
  Moves.composes.step nextTick_quiet.tidies admits_quiet.readmitEmergencies.tidies scheduleNext_tidies
    (fun d => (payOverhead_quiet d).tidies) serveDecided_tidies fun tick => (sweeps_quiet.sweepEvery tick).tidies

theorem command_tidies : ∀ c : Command, c.apply.Tidies
  | .pause | .resume | .shutdown => fun _ hj => hj
  | .setPolicy p => .bind .get fun _ => .bind (swapPolicy_quiet p).tidies fun _ => .pure _
  | .triggerEmergency lane kind => .bind (.ofExcept (Lane.ofIndex lane)) fun l => triggerEmergency_tidies l kind

/-- **Every operation keeps the traffic tidy**, also when it is refused. -/
theorem Operation.tidies (op : Operation) : op.perform.Tidies := by
  cases op with
  | enqueue l v => exact .bind (enqueueVehicle_tidies l v) fun _ => .pure _
  | enqueueNow l id => exact .bind .get fun _ => .bind (enqueueVehicle_tidies l _) fun _ => .pure _
  | dequeue l => exact .bind (dequeueVehicle_tidies l) fun _ => .pure _
  | tickLane l => exact .bind (Quiet.composes.tickLane (.tryOnLane l fun a => a.still_tick l)).tidies fun _ => .pure _
  | setState l s => exact .bind (Quiet.tryOnLane l fun a => a.still_transition l s).tidies fun _ => .pure _
  | schedule => exact .bind scheduleNext_tidies fun _ => .pure _
  | slice l => exact .bind (executeSlice_tidies l) fun _ => .pure _
  | complete l => exact .bind (completeEmergency_tidies l) fun _ => .pure _
  | setPolicy p => exact .bind (swapPolicy_quiet p).tidies fun _ => .pure _
  | checkExclusion => exact .bind reports_quiet.checkMutualExclusion.tidies fun _ => .pure _
  | request l count => exact .bind (Quiet.request l count).tidies fun _ => .bind (.ofExcept _) fun _ => .pure _
  | retry l => exact .bind (Quiet.retry l).tidies fun _ => .bind (.ofExcept _) fun _ => .pure _
  | release l => exact .bind (Quiet.release l).tidies fun _ => .pure _
  | sweep => exact .bind (sweeps_quiet.breakCycles 4).tidies fun _ => .pure _
  | raise l kind tick => exact .bind (.onEmergencies fun _ h => h.trigger l kind tick) fun _ => .pure _
  | resolve l => exact .bind (.onEmergencies fun _ h => h.resolve l) fun _ => .pure _
  | recordGenerated | recordOverflow | recordDenial | recordDeadlockResolved | recordContextSwitch
    | recordEmergencyHandled => exact .bind (.onMetrics _) fun _ => .pure _
  | sleep ms => exact .bind (Quiet.sleep ms).tidies fun _ => .pure _
  | arrive l kind => exact .bind (generateArrival_tidies l kind) fun _ => .pure _
  | step => exact .bind step_tidies fun _ => .pure _
  | emergency l kind => exact .bind (triggerEmergency_tidies l kind) fun _ => .pure _
  | revalidate => exact .bind admits_quiet.revalidateBlocked.tidies fun _ => .pure _
  | command c => exact .bind (command_tidies c) fun _ => .pure _
  | advance | setClock | requestStop | pause | resume => exact fun _ hj => hj

namespace Junction

theorem tidy_built {b : Blueprint} {now : Nat} (h : b.build now = .ok j) : j.traffic.Tidy := by
  rw [Blueprint.eq_assemble h]
  refine ⟨fun l => ?_, fun l ev hev => ?_, fun l ev hev => ?_⟩
  · rw [traffic_lanes_get, Blueprint.assemble, PerLane.get_ofFn]
    rfl
  · cases (PerLane.get_replicate none l).symm.trans hev
  · cases (PerLane.get_replicate none l).symm.trans hev

/-- **The traffic of every junction is tidy.** -/
theorem Reachable.tidy (h : j.Reachable allowed) : j.traffic.Tidy := by
  induction h with
  | built hb => exact tidy_built hb
  | @next j op _ _ ih => exact op.tidies j ih

end Junction

end Crossroads
