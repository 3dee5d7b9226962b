import Crossroads.Proofs.WaitFor.Holders
/-!
# The search as one walk

The search does not hand its marks and its way down: it walks over the graph with one set of marks and one path, puts a
lane at the end of the path as it enters the lane, and takes the last lane off as it leaves one.  `Visits` and `Starts`
run that walk with no bound on its depth.  Every such search ends, with the answer of `findCycle` (`starts_iff`), and the
path is empty again before each new start (`Starts.path_eq_nil`).
-/
namespace Crossroads
namespace WaitForGraph

/-- The graph after edges were added in order. -/
def addEdges (g : WaitForGraph) (edges : List (Lane × Lane)) : WaitForGraph :=
  edges.foldl (fun g e => g.addEdge e.1 e.2) g

/-- How far the search has come: the marks, and the entered lanes in order. -/
structure Walk where
  marks : Marks := .replicate .unseen
  path : List Lane := []

namespace Walk

def enter (w : Walk) (l : Lane) : Walk := ⟨w.marks.set l .entered, w.path ++ [l]⟩

def leave (w : Walk) (l : Lane) : Walk := ⟨w.marks.set l .left, w.path.dropLast⟩

/-- The path from where it first comes to a lane; the whole path if it does not. -/
def pathFrom (w : Walk) (l : Lane) : List Lane := w.path.drop ((w.path.idxOf? l).getD 0)

end Walk

/-- `g.Visits node ls w found w'`: the visit of an entered lane still has to look at the lanes `ls` and has come to `w`;
it ends at `w'` with what it found. -/
inductive Visits (g : WaitForGraph) : Lane → List Lane → Walk → Option (List Lane) → Walk → Prop where
  /-- There is nothing more to look at. -/
  | leave {node : Lane} {w : Walk} : Visits g node [] w none (w.leave node)
  /-- The next lane is not waited for, or was left before. -/
  | pass {node next : Lane} {ls : List Lane} {w w' : Walk} {found : Option (List Lane)}
      (skipped : g.hasEdge node next = true → w.marks.get next = .left) (rest : Visits g node ls w found w') :
      Visits g node (next :: ls) w found w'
  /-- The next lane is on the path. -/
  | close {node next : Lane} {ls : List Lane} {w : Walk} (edge : g.hasEdge node next = true)
      (entered : w.marks.get next = .entered) : Visits g node (next :: ls) w (some (w.pathFrom next)) w
  /-- A visit of the next lane comes upon a cycle. -/
  | found {node next : Lane} {ls c : List Lane} {w w' : Walk} (edge : g.hasEdge node next = true)
      (unseen : w.marks.get next = .unseen) (visit : Visits g next Lane.all (w.enter next) (some c) w') :
      Visits g node (next :: ls) w (some c) w'
  /-- A visit of the next lane comes back with nothing. -/
  | back {node next : Lane} {ls : List Lane} {w w₁ w' : Walk} {found : Option (List Lane)}
      (edge : g.hasEdge node next = true) (unseen : w.marks.get next = .unseen)
      (visit : Visits g next Lane.all (w.enter next) none w₁) (rest : Visits g node ls w₁ found w') :
      Visits g node (next :: ls) w found w'

/-- `g.Starts ls w starts found`: the search has come to `w` with the lanes `ls` still to be started at; it ends with what
it found, and `starts` is where it stands whenever it enters a lane to start at. -/
inductive Starts (g : WaitForGraph) : List Lane → Walk → List Walk → Option (List Lane) → Prop where
  | done {w : Walk} : Starts g [] w [] none
  | seen {l : Lane} {ls : List Lane} {w : Walk} {starts : List Walk} {found : Option (List Lane)}
      (seen : w.marks.get l ≠ .unseen) (rest : Starts g ls w starts found) : Starts g (l :: ls) w starts found
  | found {l : Lane} {ls c : List Lane} {w w' : Walk} (unseen : w.marks.get l = .unseen)
      (visit : Visits g l Lane.all (w.enter l) (some c) w') : Starts g (l :: ls) w [w] (some c)
  | back {l : Lane} {ls : List Lane} {w w' : Walk} {starts : List Walk} {found : Option (List Lane)}
      (unseen : w.marks.get l = .unseen) (visit : Visits g l Lane.all (w.enter l) none w')
      (rest : Starts g ls w' starts found) : Starts g (l :: ls) w (w :: starts) found

variable {g : WaitForGraph}

/-! ## The path -/

theorem Visits.path_eq {node : Lane} {ls : List Lane} {w w' : Walk} {found : Option (List Lane)}
    (v : g.Visits node ls w found w') (hn : found = none) : w'.path = w.path.dropLast := by
  induction v with
  | leave => rfl
  | pass _ _ ih => exact ih hn
  | close => cases hn
  | found => cases hn
  | @back node next ls w w₁ w' found _ _ _ _ ihv ihr =>
    have hback : w₁.path = w.path := (ihv rfl).trans List.dropLast_concat
    rw [ihr hn, hback]

/-- **The path is empty again before each new start.** -/
theorem Starts.path_eq_nil {ls : List Lane} {w : Walk} {starts : List Walk} {found : Option (List Lane)}
    (s : g.Starts ls w starts found) : w.path = [] → ∀ b ∈ starts, b.path = [] := by
  induction s with
  | done => exact fun _ b hb => absurd hb List.not_mem_nil
  | seen _ _ ih => exact ih
  | found => exact fun hp b hb => List.mem_singleton.1 hb ▸ hp
  | back _ v _ ih =>
    intro hp b hb
    rcases List.mem_cons.1 hb with rfl | hb
    · exact hp
    · exact ih (by rw [v.path_eq rfl, Walk.enter, List.dropLast_concat, hp]) b hb

/-! ## One course only -/

theorem Visits.unique {node : Lane} {ls : List Lane} {w w₁ : Walk} {r₁ : Option (List Lane)}
    (v : g.Visits node ls w r₁ w₁) : ∀ {r₂ w₂}, g.Visits node ls w r₂ w₂ → r₁ = r₂ ∧ w₁ = w₂ := by
  induction v with
  | leave => rintro _ _ ⟨⟩; exact ⟨rfl, rfl⟩
  | pass hs _ ih =>
    intro _ _ v
    cases v with
    | pass _ rest => exact ih rest
    | close e he => rw [hs e] at he; cases he
    | found e hu => rw [hs e] at hu; cases hu
    | back e hu => rw [hs e] at hu; cases hu
  | close e he =>
    intro _ _ v
    cases v with
    | pass hs => rw [hs e] at he; cases he
    | close => exact ⟨rfl, rfl⟩
    | found _ hu => rw [he] at hu; cases hu
    | back _ hu => rw [he] at hu; cases hu
  | found e hu _ ih =>
    intro _ _ v
    cases v with
    | pass hs => rw [hs e] at hu; cases hu
    | close _ he => rw [he] at hu; cases hu
    | found _ _ visit => exact ih visit
    | back _ _ visit => cases (ih visit).1
  | back e hu _ _ ihv ihr =>
    intro _ _ v
    cases v with
    | pass hs => rw [hs e] at hu; cases hu
    | close _ he => rw [he] at hu; cases hu
    | found _ _ visit => cases (ihv visit).1
    | back _ _ visit rest =>
      obtain ⟨-, rfl⟩ := ihv visit
      exact ihr rest

theorem Starts.unique {ls : List Lane} {w : Walk} {starts₁ : List Walk} {r₁ : Option (List Lane)}
    (s : g.Starts ls w starts₁ r₁) : ∀ {starts₂ r₂}, g.Starts ls w starts₂ r₂ → r₁ = r₂ := by
  induction s with
  | done => rintro _ _ ⟨⟩; rfl
  | seen hs _ ih =>
    intro _ _ s
    cases s with
    | seen _ rest => exact ih rest
    | found hu => exact absurd hu hs
    | back hu => exact absurd hu hs
  | found hu visit =>
    intro _ _ s
    cases s with
    | seen hs => exact absurd hu hs
    | found _ visit' => exact (visit.unique visit').1
    | back _ visit' => cases (visit.unique visit').1
  | back hu visit _ ih =>
    intro _ _ s
    cases s with
    | seen hs => exact absurd hu hs
    | found _ visit' => cases (visit.unique visit').1
    | back _ visit' rest =>
      obtain ⟨-, rfl⟩ := visit.unique visit'
      exact ih rest

/-! ## The walk and the search -/

theorem drop_idxOf? {l : Lane} : ∀ {path : List Lane}, l ∈ path →
    path.drop ((path.idxOf? l).getD 0) = path.dropWhile (· ≠ l)
  | a :: path, h => by
    by_cases ha : a = l
    · subst ha
      simp [List.idxOf?_cons]
    · have hm : l ∈ path := (List.mem_cons.1 h).resolve_left (Ne.symm ha)
      have ih := drop_idxOf? hm
      obtain ⟨i, hi⟩ := Option.isSome_iff_exists.1 (List.isSome_idxOf?.2 hm)
      rw [hi] at ih
      simpa [List.idxOf?_cons, List.dropWhile_cons, ha, hi] using ih

/-- The walk that stands at the end of a way. -/
def Walk.along (marks : Marks) (way : List Lane) : Walk := ⟨marks, way.reverse⟩

theorem Walk.enter_along (marks : Marks) (way : List Lane) (l : Lane) :
    (along marks way).enter l = along (marks.set l .entered) (l :: way) := by
  rw [enter, along, along, List.reverse_cons]

theorem Walk.leave_along (marks : Marks) (way : List Lane) (l : Lane) :
    (along marks (l :: way)).leave l = along (marks.set l .left) way := by
  rw [leave, along, along, List.reverse_cons, List.dropLast_concat]

theorem Walk.pathFrom_along (marks : Marks) {way : List Lane} {l : Lane} (h : l ∈ way) :
    (along marks way).pathFrom l = way.reverse.dropWhile (· ≠ l) :=
  drop_idxOf? (List.mem_reverse.2 h)

/-- A visit is a course of the walk: it answers the same, and a visit that finds nothing comes back with its marks. -/
def VisitRuns (g : WaitForGraph) (depth : Nat) : Prop :=
  ∀ {node : Lane} {marks : Marks} {trail : List Lane}, OnWay g marks trail → marks.get node = .unseen →
    (node :: trail).IsChain (fun b a => g.hasEdge a b = true) → unseenCount marks ≤ depth →
    ∃ w', g.Visits node Lane.all (.along (marks.set node .entered) (node :: trail))
        (g.visit depth node marks trail).1 w' ∧
      ((g.visit depth node marks trail).1 = none → w' = .along (g.visit depth node marks trail).2 trail)

theorem foldl_follow_runs {depth : Nat} (hv : g.VisitRuns depth) {node : Lane} {trail : List Lane} :
    ∀ (ls : List Lane) {marks : Marks}, OnWay g marks (node :: trail) → unseenCount marks ≤ depth →
      ∃ w', g.Visits node ls (.along marks (node :: trail)) (ls.foldl (g.follow depth node trail) (none, marks)).1 w' ∧
        ((ls.foldl (g.follow depth node trail) (none, marks)).1 = none →
          w' = .along ((ls.foldl (g.follow depth node trail) (none, marks)).2.set node .left) trail)
  | [], marks, _, _ => ⟨_, .leave, fun _ => Walk.leave_along marks trail node⟩
  | next :: ls, marks, w, hd => by
    rw [List.foldl_cons]
    by_cases e : g.hasEdge node next = true
    · cases hm : marks.get next with
      | entered =>
        rw [follow_of_entered e hm, foldl_follow_some, ← Walk.pathFrom_along marks ((w.entered next).1 hm)]
        exact ⟨_, .close e hm, fun h => by cases h⟩
      | unseen =>
        have hc : (next :: node :: trail).IsChain (fun b a => g.hasEdge a b = true) :=
          List.isChain_cons_cons.2 ⟨e, w.chain⟩
        obtain ⟨h1, -⟩ := visit_leaves depth w hm hc hd
        -- A visit that finds nothing comes back to the way it left, so the rest of the lanes goes on from there.
        obtain ⟨w₁, run, hback⟩ := hv w hm hc hd
        rw [← Walk.enter_along] at run
        rw [follow_of_unseen e hm]
        rcases hr : g.visit depth next marks (node :: trail) with ⟨_ | c, m⟩
        · rw [hr] at h1 run hback
          obtain ⟨w', rest, hw'⟩ := foldl_follow_runs hv ls (h1.onWay rfl) (Nat.le_trans (h1.unseen rfl) hd)
          rw [← hback rfl] at rest
          exact ⟨w', .back e hm run rest, hw'⟩
        · rw [hr] at run
          rw [foldl_follow_some]
          exact ⟨w₁, .found e hm run, fun h => by cases h⟩
      | left =>
        obtain ⟨w', rest, hw'⟩ := foldl_follow_runs hv ls w hd
        rw [follow_of_left e hm]
        exact ⟨w', .pass (fun _ => hm) rest, hw'⟩
    · obtain ⟨w', rest, hw'⟩ := foldl_follow_runs hv ls w hd
      rw [follow_of_not_edge e]
      exact ⟨w', .pass (fun h => absurd h e) rest, hw'⟩

theorem visit_runs : ∀ depth, g.VisitRuns depth
  | 0, node, marks, _, _, hn, _, hd => by
    -- The lane itself is unseen, so the depth is never used up.
    have hcount := unseenCount_enter hn
    omega
  | depth + 1, node, marks, trail, w, hn, hc, hd => by
    have hcount := unseenCount_enter hn
    obtain ⟨w', run, hw'⟩ := foldl_follow_runs (visit_runs depth) Lane.all (w.enter hn hc) (by omega)
    rw [visit_succ]
    rcases hf : Lane.all.foldl (g.follow depth node trail) (none, marks.set node .entered) with ⟨_ | c, m⟩
    · rw [hf] at run hw'
      exact ⟨w', run, hw'⟩
    · rw [hf] at run
      exact ⟨w', run, fun h => by cases h⟩

theorem foldl_start_runs : ∀ (ls : List Lane) {marks : Marks}, OnWay g marks [] → unseenCount marks ≤ 4 →
    ∃ starts, g.Starts ls (.along marks []) starts (ls.foldl g.start (none, marks)).1
  | [], _, _, _ => ⟨[], .done⟩
  | l :: ls, marks, w, hd => by
    rw [List.foldl_cons]
    by_cases hl : marks.get l = .unseen
    · have hc := List.isChain_singleton (R := fun b a => g.hasEdge a b = true) l
      obtain ⟨h1, -⟩ := visit_leaves 4 w hl hc hd
      obtain ⟨w₁, run, hback⟩ := visit_runs 4 w hl hc hd
      rw [← Walk.enter_along] at run
      rw [start_of_unseen hl]
      rcases hr : g.visit 4 l marks [] with ⟨_ | c, m⟩
      · rw [hr] at h1 run hback
        rw [hback rfl] at run
        obtain ⟨starts, rest⟩ := foldl_start_runs ls (h1.onWay rfl) (Nat.le_trans (h1.unseen rfl) hd)
        exact ⟨_ :: starts, .back hl run rest⟩
      · rw [hr] at run
        rw [foldl_start_some]
        exact ⟨_, .found hl run⟩
    · obtain ⟨starts, rest⟩ := foldl_start_runs ls w hd
      rw [start_of_seen hl]
      exact ⟨starts, .seen hl rest⟩

/-- **The walk ends, and answers what `findCycle` does.** -/
theorem starts_iff {found : Option (List Lane)} :
    (∃ starts, g.Starts Lane.all {} starts found) ↔ found = g.findCycle := by
  have hrun : ∃ starts, g.Starts Lane.all {} starts g.findCycle := foldl_start_runs Lane.all onWay_nil (Nat.le_refl 4)
  constructor
  · rintro ⟨_, s⟩
    obtain ⟨_, run⟩ := hrun
    exact s.unique run
  · rintro rfl
    exact hrun

/-! ## Graphs made of added edges -/

theorem hasEdge_addEdges {a b : Lane} : ∀ (edges : List (Lane × Lane)) {g : WaitForGraph},
    (g.addEdges edges).hasEdge a b = true ↔ g.hasEdge a b = true ∨ a ≠ b ∧ (a, b) ∈ edges
  | [], g => by simp [addEdges]
  | e :: edges, g => by
    rw [addEdges, List.foldl_cons, ← addEdges, hasEdge_addEdges edges, hasEdge_addEdge_iff, List.mem_cons]
    constructor
    · rintro ((h | ⟨hne, rfl, rfl⟩) | ⟨hne, h⟩)
      · exact .inl h
      · exact .inr ⟨hne, .inl rfl⟩
      · exact .inr ⟨hne, .inr h⟩
    · rintro (h | ⟨hne, rfl | h⟩)
      · exact .inl (.inl h)
      · exact .inl (.inr ⟨hne, rfl, rfl⟩)
      · exact .inr ⟨hne, h⟩

/-- A cycle of a graph without an edge from a lane to itself is at least two lanes long. -/
theorem IsCycle.two_le_length {c : List Lane} (h : g.IsCycle c) (hg : ∀ l, g.hasEdge l l = false) : 2 ≤ c.length := by
  obtain ⟨hne, -, -, hcloses⟩ := h
  match c with
  | [l] => cases (hg l).symm.trans hcloses
  | _ :: _ :: _ => simp

/-- **The search of a graph that was made by adding edges.**  It ends; what it finds is a cycle of two lanes or more; it
finds nothing exactly if no lane reaches itself; and its path is empty before each new start. -/
theorem findCycle_addEdges (edges : List (Lane × Lane)) :
    let g := ({} : WaitForGraph).addEdges edges
    (∀ a b, g.hasEdge a b = true ↔ a ≠ b ∧ (a, b) ∈ edges) ∧
    (∀ found, (∃ starts, g.Starts Lane.all {} starts found) ↔ found = g.findCycle) ∧
    (∀ c, g.findCycle = some c → g.IsCycle c ∧ 2 ≤ c.length) ∧
    (g.findCycle = none ↔ ∀ l, ¬ g.Path l l) ∧
    (∀ starts found, g.Starts Lane.all {} starts found → ∀ w ∈ starts, w.path = []) := by
  intro g
  have hedge : ∀ a b, g.hasEdge a b = true ↔ a ≠ b ∧ (a, b) ∈ edges := by
    intro a b
    have hnone : ({} : WaitForGraph).hasEdge a b = false := by
      rw [hasEdge, PerLane.get_replicate, PerLane.get_replicate]
    rw [hasEdge_addEdges, hnone]
    simp only [Bool.false_eq_true, false_or]
  have hself : ∀ l, g.hasEdge l l = false := fun l =>
    Bool.eq_false_iff.2 (fun h => ((hedge l l).1 h).1 rfl)
  exact ⟨hedge, fun _ => starts_iff, fun c hc => ⟨findCycle_isCycle hc, (findCycle_isCycle hc).two_le_length hself⟩,
    findCycle_eq_none_iff, fun _ _ s => s.path_eq_nil rfl⟩

/-- The first start leaves two lanes with nothing found; the next one passes one of them by and comes upon the cycle. -/
theorem findCycle_addEdges_pair :
    let g := ({} : WaitForGraph).addEdges
      [(.south, .south), (.north, .south), (.east, .south), (.east, .west), (.west, .east)]
    g.findCycle = some [.east, .west] ∧ g.IsCycle [.east, .west] ∧
      ∃ starts, g.Starts Lane.all {} starts (some [.east, .west]) := by
  intro g
  have hfound : g.findCycle = some [.east, .west] := by decide
  obtain ⟨-, hends, hcycle, -, -⟩ := findCycle_addEdges
    [(.south, .south), (.north, .south), (.east, .south), (.east, .west), (.west, .east)]
  exact ⟨hfound, (hcycle _ hfound).1, (hends _).2 hfound.symm⟩

end WaitForGraph
end Crossroads
