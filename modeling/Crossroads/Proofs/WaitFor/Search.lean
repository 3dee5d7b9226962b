import Mathlib.Data.List.Chain
import Mathlib.Data.List.Nodup
import Mathlib.Data.List.TakeWhile
import Crossroads.WaitFor
/-!
# The search for a wait cycle

The depth-first search answers a cycle (`findCycle_isCycle`) whenever some lane reaches itself
(`findCycle_eq_none_iff`).  The way from the start of the search to the visited lane is a chain of edges whose lanes are
exactly the entered ones; the lanes that were left are closed under edges, and none of them reaches itself.
-/
namespace Crossroads
namespace WaitForGraph

variable {g : WaitForGraph}

/-- Different lanes, each waiting for the next and the last for the first. -/
structure IsCycle (g : WaitForGraph) (c : List Lane) : Prop where
  ne_nil : c ≠ []
  nodup : c.Nodup
  chain : c.IsChain (fun a b => g.hasEdge a b = true)
  closes : g.hasEdge (c.getLast ne_nil) (c.head ne_nil) = true

/-! ## The way to a visited lane -/

/-- The search stands at the end of a way, nearest lane first. -/
structure OnWay (g : WaitForGraph) (marks : Marks) (way : List Lane) : Prop where
  entered : ∀ l, marks.get l = .entered ↔ l ∈ way
  nodup : way.Nodup
  chain : way.IsChain (fun b a => g.hasEdge a b = true)
  closed : ∀ {a b}, marks.get a = .left → g.hasEdge a b = true → marks.get b = .left
  acyclic : ∀ {a}, marks.get a = .left → ¬ g.Path a a

theorem OnWay.left_of_path {marks : Marks} {way : List Lane} (w : OnWay g marks way) {a b : Lane}
    (h : g.Path a b) (ha : marks.get a = .left) : marks.get b = .left := by
  induction h with
  | edge e => exact w.closed ha e
  | step e _ ih => exact ih (w.closed ha e)

theorem OnWay.enter {marks : Marks} {trail : List Lane} (w : OnWay g marks trail) {node : Lane}
    (hn : marks.get node = .unseen) (hc : (node :: trail).IsChain (fun b a => g.hasEdge a b = true)) :
    OnWay g (marks.set node .entered) (node :: trail) where
  entered l := by
    rw [PerLane.get_set, List.mem_cons]
    by_cases h : l = node
    · simp [h]
    · simp [h, w.entered l]
  nodup := by
    refine List.nodup_cons.2 ⟨fun h => ?_, w.nodup⟩
    rw [← w.entered, hn] at h
    cases h
  chain := hc
  closed {a b} ha e := by
    rw [PerLane.get_set] at ha
    split at ha
    · cases ha
    · have hb := w.closed ha e
      rw [PerLane.get_set, if_neg (fun h => by rw [h, hn] at hb; cases hb), hb]
  acyclic {a} ha := by
    rw [PerLane.get_set] at ha
    split at ha
    · cases ha
    · exact w.acyclic ha

theorem OnWay.leave {marks : Marks} {trail : List Lane} {node : Lane} (w : OnWay g marks (node :: trail))
    (hs : ∀ b, g.hasEdge node b = true → marks.get b = .left) : OnWay g (marks.set node .left) trail := by
  have hnode : marks.get node = .entered := (w.entered node).2 List.mem_cons_self
  have hleft : ∀ {b}, (marks.set node .left).get b = .left ↔ b = node ∨ marks.get b = .left := by
    intro b
    rw [PerLane.get_set]
    by_cases h : b = node <;> simp [h]
  refine ⟨fun l => ?_, (List.nodup_cons.1 w.nodup).2, w.chain.tail, fun {a b} ha e => ?_, fun {a} ha hp => ?_⟩
  · rw [PerLane.get_set]
    by_cases h : l = node
    · simp [h, (List.nodup_cons.1 w.nodup).1]
    · simp [h, w.entered l]
  · rcases hleft.1 ha with rfl | ha
    · exact hleft.2 (.inr (hs b e))
    · exact hleft.2 (.inr (w.closed ha e))
  · rcases hleft.1 ha with rfl | ha
    · -- a way back to the lane would have left it already
      have hback : marks.get a = .left := by
        cases hp with
        | edge e => exact hs a e
        | step e p => exact w.left_of_path p (hs _ e)
      rw [hnode] at hback
      cases hback
    · exact w.acyclic ha hp

theorem OnWay.isCycle {marks : Marks} {way : List Lane} {node next : Lane} (w : OnWay g marks (node :: way))
    (hm : next ∈ node :: way) (e : g.hasEdge node next = true) :
    g.IsCycle ((node :: way).reverse.dropWhile (· ≠ next)) := by
  have hsuf := List.dropWhile_suffix (· ≠ next) (l := (node :: way).reverse)
  generalize hc : (node :: way).reverse.dropWhile (· ≠ next) = c at hsuf ⊢
  have hne : c ≠ [] := by
    intro h
    rw [h, List.dropWhile_eq_nil_iff] at hc
    simpa using hc next (List.mem_reverse.2 hm)
  have hhead : c.head hne = next := by
    have h := List.head_dropWhile_not (· ≠ next) (l := (node :: way).reverse) (by rw [hc]; exact hne)
    simp only [hc] at h
    simpa using h
  have hlast : c.getLast hne = node := by
    have h := hsuf.getLast hne
    simpa using h
  refine ⟨hne, (List.nodup_reverse.2 w.nodup).sublist hsuf.sublist, ?_, by rw [hlast, hhead]; exact e⟩
  exact (List.isChain_reverse.2 w.chain).suffix hsuf

/-! ## Visits -/

/-- What a lane adds to the number of lanes that the search has not come to. -/
def Mark.unseenCount : Mark → Nat
  | .unseen => 1
  | _ => 0

def unseenCount (marks : Marks) : Nat := (marks.map Mark.unseenCount).sum

theorem unseenCount_set (marks : Marks) (node : Lane) (m : Mark) :
    unseenCount (marks.set node m) + (marks.get node).unseenCount = unseenCount marks + m.unseenCount := by
  have h := PerLane.sum_set (marks.map Mark.unseenCount) node m.unseenCount
  rwa [PerLane.get_map, ← PerLane.map_set] at h

theorem unseenCount_enter {marks : Marks} {node : Lane} (h : marks.get node = .unseen) :
    unseenCount (marks.set node .entered) + 1 = unseenCount marks := by
  have hset := unseenCount_set marks node .entered
  rwa [h] at hset

/-- A search that stands at the end of a way answers a cycle, or comes back to the way with more lanes left. -/
structure Leaves (g : WaitForGraph) (marks : Marks) (way : List Lane) (r : Option (List Lane) × Marks) : Prop where
  cycle : ∀ c, r.1 = some c → g.IsCycle c
  onWay : r.1 = none → OnWay g r.2 way
  unseen : r.1 = none → unseenCount r.2 ≤ unseenCount marks
  left : r.1 = none → ∀ l, marks.get l = .left → r.2.get l = .left

theorem OnWay.leaves {marks : Marks} {way : List Lane} (w : OnWay g marks way) : Leaves g marks way (none, marks) :=
  ⟨fun _ h => (by cases h), fun _ => w, fun _ => Nat.le_refl _, fun _ _ h => h⟩

theorem Leaves.of_cycle {marks m : Marks} {way c : List Lane} (h : g.IsCycle c) : Leaves g marks way (some c, m) :=
  ⟨fun _ hc => Option.some.inj hc ▸ h, fun h => (by cases h), fun h => (by cases h), fun h => (by cases h)⟩

theorem Leaves.trans {marks m : Marks} {way : List Lane} {r : Option (List Lane) × Marks}
    (h : Leaves g marks way (none, m)) (k : Leaves g m way r) : Leaves g marks way r where
  cycle := k.cycle
  onWay := k.onWay
  unseen hn := Nat.le_trans (k.unseen hn) (h.unseen rfl)
  left hn l hl := k.left hn l (h.left rfl l hl)

/-- One successor of a visited lane is looked at. -/
def follow (g : WaitForGraph) (depth : Nat) (node : Lane) (trail : List Lane) (found : Option (List Lane) × Marks)
    (next : Lane) : Option (List Lane) × Marks :=
  match found.1 with
  | some _ => found
  | none =>
    if g.hasEdge node next then
      match found.2.get next with
      | .entered => (some ((node :: trail).reverse.dropWhile (· ≠ next)), found.2)
      | .unseen  => g.visit depth next found.2 (node :: trail)
      | .left    => found
    else found

section

variable {depth : Nat} {node next : Lane} {marks : Marks} {trail : List Lane}

theorem follow_of_not_edge (h : ¬ g.hasEdge node next = true) :
    g.follow depth node trail (none, marks) next = (none, marks) :=
  if_neg h

theorem follow_of_entered (e : g.hasEdge node next = true) (h : marks.get next = .entered) :
    g.follow depth node trail (none, marks) next = (some ((node :: trail).reverse.dropWhile (· ≠ next)), marks) := by
  simp only [follow, e, if_true, h]

theorem follow_of_unseen (e : g.hasEdge node next = true) (h : marks.get next = .unseen) :
    g.follow depth node trail (none, marks) next = g.visit depth next marks (node :: trail) := by
  simp only [follow, e, if_true, h]

theorem follow_of_left (e : g.hasEdge node next = true) (h : marks.get next = .left) :
    g.follow depth node trail (none, marks) next = (none, marks) := by
  simp only [follow, e, if_true, h]

end

theorem visit_succ (depth : Nat) (node : Lane) (marks : Marks) (trail : List Lane) :
    g.visit (depth + 1) node marks trail =
      match Lane.all.foldl (g.follow depth node trail) (none, marks.set node .entered) with
      | (some cycle, marks) => (some cycle, marks)
      | (none, marks)       => (none, marks.set node .left) := rfl

theorem foldl_follow_some (depth : Nat) (node : Lane) (trail c : List Lane) (marks : Marks) :
    ∀ ls : List Lane, ls.foldl (g.follow depth node trail) (some c, marks) = (some c, marks)
  | [] => rfl
  | _ :: ls => foldl_follow_some depth node trail c marks ls

/-- What visits of some depth answer at an unseen lane, if there are no more unseen lanes than that. -/
def VisitLeaves (g : WaitForGraph) (depth : Nat) : Prop :=
  ∀ {node : Lane} {marks : Marks} {trail : List Lane}, OnWay g marks trail → marks.get node = .unseen →
    (node :: trail).IsChain (fun b a => g.hasEdge a b = true) → unseenCount marks ≤ depth →
    Leaves g marks trail (g.visit depth node marks trail) ∧
      ((g.visit depth node marks trail).1 = none → (g.visit depth node marks trail).2.get node = .left)

theorem follow_leaves {depth : Nat} (hv : VisitLeaves g depth) {node : Lane} {trail : List Lane} {marks : Marks}
    (w : OnWay g marks (node :: trail)) (hd : unseenCount marks ≤ depth) (next : Lane) :
    Leaves g marks (node :: trail) (g.follow depth node trail (none, marks) next) ∧
      ((g.follow depth node trail (none, marks) next).1 = none → g.hasEdge node next = true →
        (g.follow depth node trail (none, marks) next).2.get next = .left) := by
  by_cases e : g.hasEdge node next = true
  · cases hm : marks.get next with
    | entered =>
      rw [follow_of_entered e hm]
      exact ⟨.of_cycle (w.isCycle ((w.entered next).1 hm) e), fun h => by cases h⟩
    | unseen =>
      obtain ⟨h, hl⟩ := hv w hm (List.isChain_cons_cons.2 ⟨e, w.chain⟩) hd
      rw [follow_of_unseen e hm]
      exact ⟨h, fun hn _ => hl hn⟩
    | left =>
      rw [follow_of_left e hm]
      exact ⟨w.leaves, fun _ _ => hm⟩
  · rw [follow_of_not_edge e]
    exact ⟨w.leaves, fun _ h => absurd h e⟩

theorem foldl_follow_leaves {depth : Nat} (hv : VisitLeaves g depth) {node : Lane} {trail : List Lane} :
    ∀ (ls : List Lane) {marks : Marks}, OnWay g marks (node :: trail) → unseenCount marks ≤ depth →
      Leaves g marks (node :: trail) (ls.foldl (g.follow depth node trail) (none, marks)) ∧
        ((ls.foldl (g.follow depth node trail) (none, marks)).1 = none → ∀ next ∈ ls, g.hasEdge node next = true →
          (ls.foldl (g.follow depth node trail) (none, marks)).2.get next = .left)
  | [], marks, w, _ => ⟨w.leaves, fun _ _ h => by cases h⟩
  | next :: ls, marks, w, hd => by
    obtain ⟨h1, hl1⟩ := follow_leaves hv w hd next
    rw [List.foldl_cons]
    rcases hf : g.follow depth node trail (none, marks) next with ⟨_ | c, m⟩
    · rw [hf] at h1 hl1
      obtain ⟨h2, hl2⟩ := foldl_follow_leaves hv ls (h1.onWay rfl) (Nat.le_trans (h1.unseen rfl) hd)
      refine ⟨h1.trans h2, fun hn l hl e => ?_⟩
      rcases List.mem_cons.1 hl with rfl | hl
      · exact h2.left hn l (hl1 rfl e)
      · exact hl2 hn l hl e
    · rw [hf] at h1
      rw [foldl_follow_some]
      exact ⟨.of_cycle (h1.cycle c rfl), fun h => by cases h⟩

theorem visit_leaves : ∀ depth, VisitLeaves g depth
  | 0, node, marks, _, _, hn, _, hd => by
    have hcount := unseenCount_enter hn
    omega
  | depth + 1, node, marks, trail, w, hn, hc, hd => by
    have hcount := unseenCount_enter hn
    have henter := w.enter hn hc
    obtain ⟨h, hl⟩ := foldl_follow_leaves (visit_leaves depth) Lane.all henter (by omega)
    rw [visit_succ]
    rcases hf : Lane.all.foldl (g.follow depth node trail) (none, marks.set node .entered) with ⟨_ | c, m⟩
    · rw [hf] at h hl
      have hleave := (h.onWay rfl).leave (fun b e => hl rfl b (Lane.mem_all b) e)
      have hm : m.get node = .entered := ((h.onWay rfl).entered node).2 List.mem_cons_self
      refine ⟨⟨fun _ hc => (by cases hc), fun _ => hleave, fun _ => ?_, fun _ l hl' => ?_⟩, fun _ =>
        PerLane.get_set_self ..⟩
      · have h1 := unseenCount_set m node .left
        have h2 : unseenCount m ≤ unseenCount (marks.set node .entered) := h.unseen rfl
        rw [hm] at h1
        simp only [Mark.unseenCount] at h1
        show unseenCount (m.set node .left) ≤ unseenCount marks
        omega
      · rw [PerLane.get_set]
        split
        · rfl
        · rename_i hne
          exact h.left rfl l (by rw [PerLane.get_set_of_ne _ _ hne]; exact hl')
    · rw [hf] at h
      exact ⟨.of_cycle (h.cycle c rfl), fun h => by cases h⟩

/-! ## The whole search -/

/-- A search is started at a lane, unless the search came to it before. -/
def start (g : WaitForGraph) (found : Option (List Lane) × Marks) (l : Lane) : Option (List Lane) × Marks :=
  match found.1 with
  | some _ => found
  | none => if found.2.get l = .unseen then g.visit 4 l found.2 [] else found

theorem start_of_unseen {marks : Marks} {l : Lane} (h : marks.get l = .unseen) :
    g.start (none, marks) l = g.visit 4 l marks [] :=
  if_pos h

theorem start_of_seen {marks : Marks} {l : Lane} (h : marks.get l ≠ .unseen) : g.start (none, marks) l = (none, marks) :=
  if_neg h

theorem findCycle_eq : g.findCycle = (Lane.all.foldl g.start (none, .replicate .unseen)).1 := rfl

theorem onWay_nil : OnWay g (.replicate .unseen) [] where
  entered l := by simp
  nodup := List.nodup_nil
  chain := List.isChain_nil
  closed ha := by rw [PerLane.get_replicate] at ha; cases ha
  acyclic ha := by rw [PerLane.get_replicate] at ha; cases ha

theorem start_leaves {marks : Marks} (w : OnWay g marks []) (hd : unseenCount marks ≤ 4) (l : Lane) :
    Leaves g marks [] (g.start (none, marks) l) ∧
      ((g.start (none, marks) l).1 = none → (g.start (none, marks) l).2.get l = .left) := by
  by_cases hl : marks.get l = .unseen
  · rw [start_of_unseen hl]
    exact visit_leaves 4 w hl (List.isChain_singleton l) hd
  · rw [start_of_seen hl]
    refine ⟨w.leaves, fun _ => ?_⟩
    cases hm : marks.get l with
    | unseen => exact absurd hm hl
    | entered => cases (w.entered l).1 hm
    | left => rfl

theorem foldl_start_some (c : List Lane) (marks : Marks) :
    ∀ ls : List Lane, ls.foldl g.start (some c, marks) = (some c, marks)
  | [] => rfl
  | _ :: ls => foldl_start_some c marks ls

theorem foldl_start_leaves : ∀ (ls : List Lane) {marks : Marks}, OnWay g marks [] → unseenCount marks ≤ 4 →
    Leaves g marks [] (ls.foldl g.start (none, marks)) ∧
      ((ls.foldl g.start (none, marks)).1 = none → ∀ l ∈ ls, (ls.foldl g.start (none, marks)).2.get l = .left)
  | [], marks, w, _ => ⟨w.leaves, fun _ _ h => by cases h⟩
  | l :: ls, marks, w, hd => by
    obtain ⟨h1, hl1⟩ := start_leaves w hd l
    rw [List.foldl_cons]
    rcases hf : g.start (none, marks) l with ⟨_ | c, m⟩
    · rw [hf] at h1 hl1
      obtain ⟨h2, hl2⟩ := foldl_start_leaves ls (h1.onWay rfl) (Nat.le_trans (h1.unseen rfl) hd)
      refine ⟨h1.trans h2, fun hn k hk => ?_⟩
      rcases List.mem_cons.1 hk with rfl | hk
      · exact h2.left hn k (hl1 rfl)
      · exact hl2 hn k hk
    · rw [hf] at h1
      rw [foldl_start_some]
      exact ⟨.of_cycle (h1.cycle c rfl), fun h => by cases h⟩

/-- **What the search finds is a cycle.** -/
theorem findCycle_isCycle {c : List Lane} (h : g.findCycle = some c) : g.IsCycle c :=
  (foldl_start_leaves Lane.all onWay_nil (Nat.le_refl 4)).1.cycle c h

theorem not_path_of_findCycle_eq_none (h : g.findCycle = none) (l : Lane) : ¬ g.Path l l := by
  obtain ⟨hf, hl⟩ := foldl_start_leaves Lane.all (onWay_nil (g := g)) (Nat.le_refl 4)
  exact (hf.onWay h).acyclic (hl h l (Lane.mem_all l))

/-! ## Cycles and paths -/

theorem Path.of_isChain : ∀ {a : Lane} {ls : List Lane}, (a :: ls).IsChain (fun a b => g.hasEdge a b = true) →
    ∀ b ∈ ls, g.Path a b
  | _, [], _, _, h => by cases h
  | a, c :: ls, hc, b, hb => by
    obtain ⟨e, hc⟩ := List.isChain_cons_cons.1 hc
    rcases List.mem_cons.1 hb with rfl | hb
    · exact .edge e
    · exact .step e (.of_isChain hc b hb)

theorem IsCycle.path_head {c : List Lane} (h : g.IsCycle c) : g.Path (c.head h.ne_nil) (c.head h.ne_nil) := by
  obtain ⟨hne, -, hchain, hcloses⟩ := h
  cases c with
  | nil => exact absurd rfl hne
  | cons a ls =>
    by_cases hls : ls = []
    · subst hls
      exact .edge hcloses
    · rw [List.getLast_cons hls] at hcloses
      exact (Path.of_isChain hchain _ (List.getLast_mem hls)).trans (.edge hcloses)

theorem IsCycle.exists_edge_from {c : List Lane} (h : g.IsCycle c) {l : Lane} (hl : l ∈ c) :
    ∃ b, g.hasEdge l b = true := by
  obtain ⟨s, t, rfl⟩ := List.append_of_mem hl
  cases t with
  | nil =>
    have hc := h.closes
    rw [List.getLast_append_of_ne_nil _ (List.cons_ne_nil l []), List.getLast_singleton] at hc
    exact ⟨_, hc⟩
  | cons b t => exact ⟨b, (List.isChain_cons_cons.1 h.chain.right_of_append).1⟩

theorem IsCycle.exists_edge_to {c : List Lane} (h : g.IsCycle c) {l : Lane} (hl : l ∈ c) :
    ∃ a, g.hasEdge a l = true := by
  obtain ⟨s, t, rfl⟩ := List.append_of_mem hl
  rcases List.eq_nil_or_concat s with rfl | ⟨s, a, rfl⟩
  · exact ⟨_, h.closes⟩
  · have hc := h.chain
    rw [List.concat_append] at hc
    exact ⟨a, (List.isChain_cons_cons.1 hc.right_of_append).1⟩

/-- **The search finds a cycle exactly if some lane reaches itself.** -/
theorem findCycle_eq_none_iff : g.findCycle = none ↔ ∀ l, ¬ g.Path l l := by
  refine ⟨not_path_of_findCycle_eq_none, fun h => ?_⟩
  cases hc : g.findCycle with
  | none => rfl
  | some c => exact absurd (findCycle_isCycle hc).path_head (h _)

end WaitForGraph
end Crossroads
