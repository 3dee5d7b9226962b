import Mathlib.Data.List.Perm.Subperm
import Crossroads.Proofs.WaitFor.Holders
/-!
# Which cycle the search finds

A lane that waits, waits for every other lane that holds something.  So the lanes that wait with something in their hands
wait for each other, and the search answers the first two of them (`findCycle_build`).

Whatever else the search comes upon does not matter.  A lane that holds but does not wait is a dead end: it is entered
and left.  A lane that waits with empty hands is not waited for: the search may start there but never comes back to it.
-/
namespace Crossroads
namespace WaitForGraph

variable {g : WaitForGraph} {a b l n t : Lane} {marks m m' : Marks} {c trail ls pre mid post : List Lane} {depth : Nat}

/-! ## Dead ends -/

def DeadEnd (g : WaitForGraph) (l : Lane) : Prop := ∀ b, ¬ g.hasEdge l b = true

theorem not_deadEnd (h : g.hasEdge a b = true) : ¬ g.DeadEnd a := fun hdead => hdead b h

/-- The search stands in no dead end. -/
def Clear (g : WaitForGraph) (marks : Marks) : Prop := ∀ l, g.DeadEnd l → marks.get l ≠ .entered

/-- The search has done nothing but leave dead ends. -/
def Skirts (g : WaitForGraph) (m m' : Marks) : Prop := ∀ l, m'.get l = m.get l ∨ g.DeadEnd l ∧ m'.get l = .left

theorem Skirts.refl (marks : Marks) : g.Skirts marks marks := fun _ => .inl rfl

theorem Skirts.trans {m'' : Marks} (h : g.Skirts m m') (k : g.Skirts m' m'') : g.Skirts m m'' := by
  intro l
  rcases k l with hl | hl
  · rw [hl]
    exact h l
  · exact .inr hl

theorem Skirts.get_eq (h : g.Skirts m m') (hl : ¬ g.DeadEnd l) : m'.get l = m.get l :=
  (h l).resolve_right fun hdead => hl hdead.1

theorem Skirts.clear (h : g.Skirts m m') (hm : g.Clear m) : g.Clear m' := by
  intro l hl
  rcases h l with hsame | ⟨-, hleft⟩
  · rw [hsame]
    exact hm l hl
  · rw [hleft]
    decide

theorem skirts_set_left (hl : g.DeadEnd l) : g.Skirts marks (marks.set l .left) := by
  intro k
  rw [PerLane.get_set]
  split
  · rename_i hk
    exact .inr ⟨hk ▸ hl, rfl⟩
  · exact .inl rfl

theorem Clear.enter (h : g.Clear marks) (hn : ¬ g.DeadEnd n) : g.Clear (marks.set n .entered) := by
  intro l hl
  have hne : l ≠ n := by
    rintro rfl
    exact hn hl
  rw [PerLane.get_set_of_ne _ _ hne]
  exact h l hl

theorem Clear.unseen : g.Clear (.replicate .unseen) := by
  intro l _
  rw [PerLane.get_replicate]
  decide

theorem foldl_follow_of_not_edge : ∀ ls : List Lane, (∀ l ∈ ls, ¬ g.hasEdge n l = true) →
    ls.foldl (g.follow depth n trail) (none, marks) = (none, marks)
  | [], _ => rfl
  | l :: ls, h => by
    rw [List.foldl_cons, follow_of_not_edge (h l List.mem_cons_self)]
    exact foldl_follow_of_not_edge ls fun k hk => h k (List.mem_cons_of_mem l hk)

theorem visit_deadEnd (hl : g.DeadEnd l) : g.visit (depth + 1) l marks trail = (none, marks.set l .left) := by
  rw [visit_succ, foldl_follow_of_not_edge Lane.all fun k _ => hl k]
  simp only [PerLane.set_set]

theorem follow_deadEnd (depth : Nat) (trail : List Lane) (hm : g.Clear m) (hl : g.hasEdge n l = true → g.DeadEnd l) :
    ∃ m', g.follow depth n trail (none, m) l = (none, m') ∧ g.Skirts m m' := by
  by_cases he : g.hasEdge n l = true
  · cases hmark : m.get l with
    | entered => exact absurd hmark (hm l (hl he))
    | left => exact ⟨m, follow_of_left he hmark, .refl m⟩
    | unseen =>
      rw [follow_of_unseen he hmark]
      cases depth with
      | zero => exact ⟨m, rfl, .refl m⟩
      | succ depth => exact ⟨_, visit_deadEnd (hl he), skirts_set_left (hl he)⟩
  · exact ⟨m, follow_of_not_edge he, .refl m⟩

/-- **Dead ends are looked at in vain.** -/
theorem foldl_follow_deadEnds (depth : Nat) (trail : List Lane) : ∀ {ls : List Lane} {m : Marks}, g.Clear m →
    (∀ l ∈ ls, g.hasEdge n l = true → g.DeadEnd l) →
      ∃ m', ls.foldl (g.follow depth n trail) (none, m) = (none, m') ∧ g.Skirts m m'
  | [], m, _, _ => ⟨m, rfl, .refl m⟩
  | l :: ls, m, hm, hls => by
    obtain ⟨hl, hls⟩ := List.forall_mem_cons.1 hls
    obtain ⟨m₁, hfollow, hfirst⟩ := follow_deadEnd depth trail hm hl
    obtain ⟨m₂, hrest, hsecond⟩ := foldl_follow_deadEnds depth trail (hfirst.clear hm) hls
    refine ⟨m₂, ?_, hfirst.trans hsecond⟩
    rw [List.foldl_cons, hfollow, hrest]

/-- **A visit answers what its first way out leads to**, if the lanes before that are dead ends. -/
theorem visit_eq_some (hall : Lane.all = pre ++ t :: post) (hpre : ∀ l ∈ pre, g.hasEdge n l = true → g.DeadEnd l)
    (hm : g.Clear marks) (hn : ¬ g.DeadEnd n)
    (ht : ∀ m', g.Skirts (marks.set n .entered) m' → (g.follow depth n trail (none, m') t).1 = some c) :
    (g.visit (depth + 1) n marks trail).1 = some c := by
  obtain ⟨m', hfold, hskirts⟩ := foldl_follow_deadEnds depth trail (hm.enter hn) hpre
  have hfound := ht m' hskirts
  rw [visit_succ, hall, List.foldl_append, hfold, List.foldl_cons]
  rcases hfollow : g.follow depth n trail (none, m') t with ⟨_ | c', m''⟩
  · rw [hfollow] at hfound
    cases hfound
  · rw [hfollow] at hfound
    rw [foldl_follow_some]
    exact hfound

/-! ## The first pair -/

/-- Two lanes that wait for each other.  In the order of the lanes `pre` comes before the first, `mid` between the two;
whoever is waited for there is a dead end, and all others that wait, wait for the first of the two. -/
structure FirstPair (g : WaitForGraph) (pre mid post : List Lane) (a b : Lane) : Prop where
  all : Lane.all = pre ++ a :: (mid ++ b :: post)
  forth : g.hasEdge a b = true
  back : g.hasEdge b a = true
  ne : a ≠ b
  skirted : ∀ n l, l ∈ pre ++ mid → g.hasEdge n l = true → g.DeadEnd l
  reached : ∀ n, ¬ g.DeadEnd n → n ≠ a → g.hasEdge n a = true
  self : ¬ g.hasEdge a a = true

namespace FirstPair

theorem visit_second (p : g.FirstPair pre mid post a b) (hm : g.Clear marks) (ha : marks.get a = .entered)
    (htrail : a ∉ trail) : (g.visit (depth + 1) b marks (a :: trail)).1 = some [a, b] := by
  refine visit_eq_some p.all (fun l hl => p.skirted b l (List.mem_append_left _ hl)) hm (not_deadEnd p.back) ?_
  intro m' hskirts
  have hentered : m'.get a = .entered := by
    rw [hskirts.get_eq (not_deadEnd p.forth), PerLane.get_set_of_ne _ _ p.ne, ha]
  have hway : (b :: a :: trail).reverse.dropWhile (· ≠ a) = [a, b] := by
    have hdrop : trail.reverse.dropWhile (· ≠ a) = [] := by
      rw [List.dropWhile_eq_nil_iff]
      intro l hl
      rw [decide_eq_true_eq]
      rintro rfl
      exact htrail (List.mem_reverse.1 hl)
    rw [List.reverse_cons, List.reverse_cons, List.append_assoc, List.dropWhile_append, hdrop]
    simp
  rw [follow_of_entered p.back hentered, hway]

theorem visit_first (p : g.FirstPair pre mid post a b) (hm : g.Clear marks) (hb : marks.get b = .unseen)
    (htrail : a ∉ trail) : (g.visit (depth + 2) a marks trail).1 = some [a, b] := by
  have hall : Lane.all = (pre ++ a :: mid) ++ b :: post := by
    rw [p.all, List.append_assoc, List.cons_append]
  refine visit_eq_some hall ?_ hm (not_deadEnd p.forth) ?_
  · intro l hl he
    rcases List.mem_append.1 hl with hl | hl
    · exact p.skirted a l (List.mem_append_left _ hl) he
    · rcases List.mem_cons.1 hl with rfl | hl
      · exact absurd he p.self
      · exact p.skirted a l (List.mem_append_right _ hl) he
  · intro m' hskirts
    have hunseen : m'.get b = .unseen := by
      rw [hskirts.get_eq (not_deadEnd p.back), PerLane.get_set_of_ne _ _ p.ne.symm, hb]
    have hentered : m'.get a = .entered := by
      rw [hskirts.get_eq (not_deadEnd p.forth), PerLane.get_set_self]
    rw [follow_of_unseen p.forth hunseen]
    exact p.visit_second (hskirts.clear (hm.enter (not_deadEnd p.forth))) hentered htrail

theorem visit_other (p : g.FirstPair pre mid post a b) (hm : g.Clear marks) (hn : ¬ g.DeadEnd n) (hna : n ≠ a)
    (hnb : n ≠ b) (ha : marks.get a = .unseen) (hb : marks.get b = .unseen) :
    (g.visit (depth + 3) n marks []).1 = some [a, b] := by
  refine visit_eq_some p.all (fun l hl => p.skirted n l (List.mem_append_left _ hl)) hm hn ?_
  intro m' hskirts
  have hunseen : m'.get a = .unseen ∧ m'.get b = .unseen := by
    rw [hskirts.get_eq (not_deadEnd p.forth), hskirts.get_eq (not_deadEnd p.back), PerLane.get_set_of_ne _ _ hna.symm,
      PerLane.get_set_of_ne _ _ hnb.symm]
    exact ⟨ha, hb⟩
  rw [follow_of_unseen (p.reached n hn hna) hunseen.1]
  exact p.visit_first (hskirts.clear (hm.enter hn)) hunseen.2 (by simpa using hna.symm)

/-- Searches from other lanes, and then one from the first of the pair. -/
theorem foldl_start (p : g.FirstPair pre mid post a b) (rest : List Lane) : ∀ {ls : List Lane} {marks : Marks},
    b ∉ ls → g.Skirts (.replicate .unseen) marks →
      ((ls ++ a :: rest).foldl g.start (none, marks)).1 = some [a, b]
  | ls, marks, hls, hskirts => by
    have hunseen : ∀ l, ¬ g.DeadEnd l → marks.get l = .unseen := by
      intro l hl
      rw [hskirts.get_eq hl, PerLane.get_replicate]
    have ha := hunseen a (not_deadEnd p.forth)
    have hb := hunseen b (not_deadEnd p.back)
    have hclear := hskirts.clear .unseen
    have hstop : ∀ {r : Option (List Lane) × Marks} (ks : List Lane), r.1 = some [a, b] →
        (ks.foldl g.start r).1 = some [a, b] := by
      rintro ⟨_, m⟩ ks ⟨⟩
      rw [foldl_start_some]
    cases ls with
    | nil =>
      refine hstop rest ?_
      rw [start_of_unseen ha]
      exact p.visit_first hclear hb List.not_mem_nil
    | cons l ls =>
      obtain ⟨hbl, hls⟩ := not_or.1 (mt List.mem_cons.2 hls)
      rw [List.cons_append, List.foldl_cons]
      by_cases hdead : g.DeadEnd l
      · by_cases hl : marks.get l = .unseen
        · rw [start_of_unseen hl, visit_deadEnd hdead]
          exact p.foldl_start rest hls (hskirts.trans (skirts_set_left hdead))
        · rw [start_of_seen hl]
          exact p.foldl_start rest hls hskirts
      · refine hstop _ ?_
        rw [start_of_unseen (hunseen l hdead)]
        by_cases hla : l = a
        · subst hla
          exact p.visit_first hclear hb List.not_mem_nil
        · exact p.visit_other hclear hdead hla (Ne.symm hbl) ha hb

/-- **The search answers the first pair.** -/
theorem findCycle_eq (p : g.FirstPair pre mid post a b) : g.findCycle = some [a, b] := by
  have hnodup : (pre ++ a :: (mid ++ b :: post)).Nodup := p.all ▸ (by decide : Lane.all.Nodup)
  have hb : b ∉ pre := by
    intro hmem
    exact (List.nodup_append.1 hnodup).2.2 b hmem b (by simp) rfl
  rw [WaitForGraph.findCycle_eq, p.all]
  exact p.foldl_start _ hb (.refl _)

end FirstPair

/-! ## Reported lanes -/

section

variable {lanes : PerLane LaneSnapshot} {resources : ResourceSnapshot}

/-- The lanes that are blocked on more than is free while they hold something, in their order. -/
def stuckHolders (lanes : PerLane LaneSnapshot) (resources : ResourceSnapshot) : List Lane :=
  Lane.all.filter fun l => (lanes.get l).state = .blocked ∧ resources.available < resources.request.get l ∧
    0 < resources.allocation.get l

theorem mem_stuckHolders : l ∈ stuckHolders lanes resources ↔ (lanes.get l).state = .blocked ∧
    resources.available < resources.request.get l ∧ 0 < resources.allocation.get l := by
  simp only [stuckHolders, List.mem_filter, Lane.mem_all, true_and, decide_eq_true_eq]

theorem pairwise_stuckHolders : (stuckHolders lanes resources).Pairwise fun a b => a.index < b.index := by
  have hall : Lane.all.Pairwise fun a b => a.index < b.index := by decide
  exact hall.filter _

/-- Reported at its own place, a lane waits for another if it is blocked on more than is free and the other holds
something. -/
theorem hasEdge_build_iff (hlanes : ∀ l, (lanes.get l).lane = l) :
    (build lanes resources).hasEdge a b = true ↔ ((lanes.get a).state = .blocked ∧
      resources.available < resources.request.get a) ∧ a ≠ b ∧ 0 < resources.allocation.get b := by
  rw [hasEdge_build, PerLane.toList_eq]
  refine and_congr_left fun _ => ?_
  simp only [List.mem_map, Lane.mem_all, true_and, isStuck, Bool.and_eq_true, decide_eq_true_eq]
  constructor
  · rintro ⟨_, ⟨l, rfl⟩, hstuck, rfl⟩
    rwa [hlanes] at hstuck ⊢
  · intro hstuck
    exact ⟨_, ⟨a, rfl⟩, by rwa [hlanes], hlanes a⟩

theorem firstPair_build (hlanes : ∀ l, (lanes.get l).lane = l) {rest : List Lane}
    (h : stuckHolders lanes resources = a :: b :: rest) :
    ∃ pre mid post, (build lanes resources).FirstPair pre mid post a b := by
  obtain ⟨pre, tail, hall, hpre, ha, htail⟩ := List.filter_eq_cons_iff.1 h
  obtain ⟨mid, post, rfl, hmid, hb, -⟩ := List.filter_eq_cons_iff.1 htail
  simp only [decide_eq_true_eq] at hpre ha hmid hb
  have hne : a ≠ b := by
    have hlt : (stuckHolders lanes resources).Pairwise _ := pairwise_stuckHolders
    rw [h] at hlt
    rintro rfl
    exact Nat.lt_irrefl _ (List.rel_of_pairwise_cons hlt List.mem_cons_self)
  refine ⟨pre, mid, post, hall, ?_, ?_, hne, ?_, ?_, ?_⟩
  · exact (hasEdge_build_iff hlanes).2 ⟨⟨ha.1, ha.2.1⟩, hne, hb.2.2⟩
  · exact (hasEdge_build_iff hlanes).2 ⟨⟨hb.1, hb.2.1⟩, hne.symm, ha.2.2⟩
  · -- a lane that is waited for holds something, so it does not wait unless it belongs to the stuck holders
    intro n l hl hedge k hwait
    obtain ⟨-, -, hholds⟩ := (hasEdge_build_iff hlanes).1 hedge
    obtain ⟨hstuck, -, -⟩ := (hasEdge_build_iff hlanes).1 hwait
    rcases List.mem_append.1 hl with hl | hl
    · exact hpre l hl ⟨hstuck.1, hstuck.2, hholds⟩
    · exact hmid l hl ⟨hstuck.1, hstuck.2, hholds⟩
  · intro n hn hna
    obtain ⟨k, hwait⟩ := not_forall_not.1 hn
    exact (hasEdge_build_iff hlanes).2 ⟨((hasEdge_build_iff hlanes).1 hwait).1, hna, ha.2.2⟩
  · intro hself
    exact ((hasEdge_build_iff hlanes).1 hself).2.1 rfl

theorem mem_stuckHolders_of_mem_cycle (hlanes : ∀ l, (lanes.get l).lane = l) (hc : (build lanes resources).IsCycle c)
    (hl : l ∈ c) : l ∈ stuckHolders lanes resources := by
  obtain ⟨b, hb⟩ := hc.exists_edge_from hl
  obtain ⟨a, ha⟩ := hc.exists_edge_to hl
  obtain ⟨⟨hblocked, hmore⟩, -, -⟩ := (hasEdge_build_iff hlanes).1 hb
  exact mem_stuckHolders.2 ⟨hblocked, hmore, ((hasEdge_build_iff hlanes).1 ha).2.2⟩

/-- A lane does not wait for itself, so a cycle has at least two members. -/
theorem two_le_length_cycle (hlanes : ∀ l, (lanes.get l).lane = l) (hc : (build lanes resources).IsCycle c) :
    2 ≤ c.length := by
  match c, hc with
  | [], hc => exact absurd rfl hc.ne_nil
  | [_], hc => exact absurd rfl ((hasEdge_build_iff hlanes).1 hc.closes).2.1
  | _ :: _ :: _, _ => simp

/-- **The detector sees a cycle exactly if two lanes are stuck with something in their hands**, and then it answers the
first two such lanes in their order. -/
theorem findCycle_build (hlanes : ∀ l, (lanes.get l).lane = l) :
    ((build lanes resources).findCycle.isSome ↔ 2 ≤ (stuckHolders lanes resources).length) ∧
      ∀ c, (build lanes resources).findCycle = some c → c = (stuckHolders lanes resources).take 2 := by
  match hS : stuckHolders lanes resources with
  | a :: b :: rest =>
    obtain ⟨pre, mid, post, hpair⟩ := firstPair_build hlanes hS
    rw [hpair.findCycle_eq]
    simp [eq_comm]
  | [] | [_] =>
    have hnone : (build lanes resources).findCycle = none := by
      cases hfind : (build lanes resources).findCycle with
      | none => rfl
      | some c =>
        have hc := findCycle_isCycle hfind
        have hsub : c ⊆ stuckHolders lanes resources := fun l hl => mem_stuckHolders_of_mem_cycle hlanes hc hl
        have hlength := (hc.nodup.subperm hsub).length_le
        rw [hS] at hlength
        have htwo := two_le_length_cycle hlanes hc
        simp only [List.length_nil, List.length_singleton] at hlength
        omega
    rw [hnone]
    simp

/-- South runs, and the others are blocked. -/
def southRuns : PerLane LaneSnapshot :=
  .ofFn fun l => { lane := l, state := if l = .south then .running else .blocked }

/-- North holds nothing, South does not wait. -/
def northEmptyHanded : ResourceSnapshot where
  total := 4
  available := 0
  allocation := ⟨0, 2, 1, 1⟩
  request := ⟨2, 0, 2, 3⟩

theorem findCycle_southRuns :
    (∀ l, (southRuns.get l).lane = l) ∧ (build southRuns northEmptyHanded).findCycle = some [.east, .west] := by
  have hlanes : ∀ l, (southRuns.get l).lane = l := by
    intro l
    rw [southRuns, PerLane.get_ofFn]
  have hstuck : stuckHolders southRuns northEmptyHanded = [.east, .west] := by decide
  obtain ⟨hsome, hpair⟩ := @findCycle_build southRuns northEmptyHanded hlanes
  obtain ⟨c, hc⟩ := Option.isSome_iff_exists.1 (hsome.2 (by rw [hstuck]; decide))
  refine ⟨hlanes, ?_⟩
  rw [hc, hpair c hc, hstuck]
  rfl

end

end WaitForGraph
end Crossroads
