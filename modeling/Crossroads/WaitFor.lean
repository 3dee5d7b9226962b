import Crossroads.Quadrants
import Crossroads.Approach
/-!
# The wait-for graph

A lane waits for another when it is blocked on more quadrants than are free and the other holds some.  `findCycle`
searches depth first from the lanes in order; `Path` says what it looks for.
-/
namespace Crossroads

/-- Which lanes wait for which: the entry of a lane lists by lane whom it waits for. -/
structure WaitForGraph where
  edges : PerLane (PerLane Bool) := .replicate (.replicate false)
deriving DecidableEq

namespace WaitForGraph

def hasEdge (g : WaitForGraph) (source target : Lane) : Bool := (g.edges.get source).get target

def insert (g : WaitForGraph) (source target : Lane) : WaitForGraph :=
  ⟨g.edges.modify source (fun row => row.set target true)⟩

/-- Adds an edge between two different lanes; a lane never waits for itself. -/
def addEdge (g : WaitForGraph) (source target : Lane) : WaitForGraph :=
  if source = target then g else g.insert source target

def edgeList (g : WaitForGraph) : List (Lane × Lane) :=
  Lane.all.flatMap (fun i => (Lane.all.filter (g.hasEdge i)).map (fun j => (i, j)))

/-- Whether a reported lane is blocked on more than is free. -/
def isStuck (resources : ResourceSnapshot) (s : LaneSnapshot) : Bool :=
  s.state = .blocked && resources.available < resources.request.get s.lane

def build (lanes : PerLane LaneSnapshot) (resources : ResourceSnapshot) : WaitForGraph :=
  (lanes.toList.filter (isStuck resources)).foldl
    (fun g s => (Lane.all.filter (fun j => 0 < resources.allocation.get j)).foldl (fun g j => g.addEdge s.lane j) g) {}

theorem hasEdge_addEdge (g : WaitForGraph) (i j a b : Lane) :
    (g.addEdge i j).hasEdge a b = (g.hasEdge a b || (i != j && a == i && b == j)) := by
  unfold addEdge
  by_cases hij : i = j
  · simp [hij]
  · simp only [hij, if_false, insert, hasEdge, PerLane.modify, PerLane.get_set]
    by_cases ha : a = i
    · subst ha
      simp only [if_true, PerLane.get_set]
      by_cases hb : b = j <;> simp [hb, hij]
    · simp [ha]

/-! ## Searching for a cycle -/

inductive Mark where
  | unseen
  | entered
  | left
deriving DecidableEq

abbrev Marks := PerLane Mark

/-- Visits a lane, given the lanes on the way to it, nearest first.  A found cycle is the way from the entered lane that
the visit came back to.  Every visit enters an unseen lane, so as many nested visits as there are lanes are enough. -/
def visit (g : WaitForGraph) : Nat → Lane → Marks → List Lane → Option (List Lane) × Marks
  | 0, _, marks, _ => (none, marks)
  | depth + 1, node, marks, trail =>
    let follow (found : Option (List Lane) × Marks) (next : Lane) : Option (List Lane) × Marks :=
      match found.1 with
      | some _ => found
      | none =>
        if g.hasEdge node next then
          match found.2.get next with
          | .entered   => (some ((node :: trail).reverse.dropWhile (· ≠ next)), found.2)
          | .unseen => visit g depth next found.2 (node :: trail)
          | .left => found
        else found
    match Lane.all.foldl follow (none, marks.set node .entered) with
    | (some cycle, marks) => (some cycle, marks)
    | (none, marks)       => (none, marks.set node .left)

/-- The first cycle that a depth-first search from the lanes in order comes upon. -/
def findCycle (g : WaitForGraph) : Option (List Lane) :=
  (Lane.all.foldl
    (fun (found : Option (List Lane) × Marks) start =>
      match found.1 with
      | some _ => found
      | none => if found.2.get start = .unseen then g.visit 4 start found.2 [] else found)
    (none, .replicate .unseen)).1

inductive Path (g : WaitForGraph) : Lane → Lane → Prop where
  | edge {a b : Lane} : g.hasEdge a b = true → Path g a b
  | step {a b c : Lane} : g.hasEdge a b = true → Path g b c → Path g a c

theorem Path.trans {g : WaitForGraph} {a b c : Lane} (h : g.Path a b) (k : g.Path b c) : g.Path a c := by
  induction h with
  | edge e => exact .step e k
  | step e _ ih => exact .step e (ih k)

end WaitForGraph

end Crossroads
