/-!
# Lanes

The four approaches of a crossroads, numbered 0 to 3, and tables with one entry per lane.  A table is read with
`get` and changed with `set`: a change touches its own lane and no other (`PerLane.get_set`), and two tables that
agree at every lane are equal (`PerLane.ext_get`).
-/
namespace Crossroads

inductive Lane where
  | north
  | south
  | east
  | west
deriving DecidableEq, Inhabited

namespace Lane

def index : Lane → Nat
  | north => 0
  | south => 1
  | east  => 2
  | west  => 3

def ofIndex? : Nat → Option Lane
  | 0 => some north
  | 1 => some south
  | 2 => some east
  | 3 => some west
  | _ => none

def all : List Lane := [north, south, east, west]

/-- The compass name that goes with a lane number; every number past the third lane is called West. -/
def codeName : Nat → String
  | 0 => "North"
  | 1 => "South"
  | 2 => "East"
  | _ => "West"

def name (l : Lane) : String := codeName l.index

theorem ofIndex?_index (l : Lane) : ofIndex? l.index = some l := by cases l <;> rfl

theorem index_lt (l : Lane) : l.index < 4 := by cases l <;> decide

theorem index_inj {a b : Lane} (h : a.index = b.index) : a = b := by
  have := congrArg ofIndex? h
  simpa [ofIndex?_index] using this

theorem mem_all (l : Lane) : l ∈ all := by cases l <;> decide

end Lane

structure PerLane (α : Type) where
  north : α
  south : α
  east  : α
  west  : α
deriving DecidableEq, BEq

namespace PerLane

variable {α β : Type}

def get (p : PerLane α) : Lane → α
  | .north => p.north
  | .south => p.south
  | .east  => p.east
  | .west  => p.west

def set (p : PerLane α) (l : Lane) (a : α) : PerLane α :=
  match l with
  | .north => { p with north := a }
  | .south => { p with south := a }
  | .east  => { p with east := a }
  | .west  => { p with west := a }

def modify (p : PerLane α) (l : Lane) (f : α → α) : PerLane α := p.set l (f (p.get l))

def ofFn (f : Lane → α) : PerLane α := ⟨f .north, f .south, f .east, f .west⟩

def replicate (a : α) : PerLane α := ⟨a, a, a, a⟩

def map (f : α → β) (p : PerLane α) : PerLane β := ofFn (fun l => f (p.get l))

def toList (p : PerLane α) : List α := [p.north, p.south, p.east, p.west]

def sum (p : PerLane Nat) : Nat := p.north + p.south + p.east + p.west

theorem get_set (p : PerLane α) (l m : Lane) (a : α) : (p.set l a).get m = if m = l then a else p.get m := by
  cases l <;> cases m <;> rfl

@[simp] theorem get_set_self (p : PerLane α) (l : Lane) (a : α) : (p.set l a).get l = a := by
  cases l <;> rfl

@[simp] theorem get_set_of_ne (p : PerLane α) {l m : Lane} (a : α) (h : m ≠ l) : (p.set l a).get m = p.get m := by
  rw [get_set, if_neg h]

theorem rel_set {R : α → α → Prop} (hrefl : ∀ a, R a a) (p : PerLane α) {l : Lane} {a : α} (h : R (p.get l) a)
    (m : Lane) : R (p.get m) ((p.set l a).get m) := by
  by_cases hm : m = l
  · rw [hm, get_set_self]
    exact h
  · rw [get_set_of_ne p a hm]
    exact hrefl _

@[simp] theorem set_get (p : PerLane α) (l : Lane) : p.set l (p.get l) = p := by cases l <;> rfl

@[simp] theorem set_set (p : PerLane α) (l : Lane) (a b : α) : (p.set l a).set l b = p.set l b := by cases l <;> rfl

@[simp] theorem get_ofFn (f : Lane → α) (l : Lane) : (ofFn f).get l = f l := by cases l <;> rfl

@[simp] theorem get_replicate (a : α) (l : Lane) : (replicate a).get l = a := by cases l <;> rfl

@[simp] theorem get_map (f : α → β) (p : PerLane α) (l : Lane) : (p.map f).get l = f (p.get l) := get_ofFn _ l

theorem sum_set (p : PerLane Nat) (l : Lane) (n : Nat) : (p.set l n).sum + p.get l = p.sum + n := by
  cases l <;> simp only [sum, set, get] <;> omega

theorem map_set (f : α → β) (p : PerLane α) (l : Lane) (a : α) : (p.set l a).map f = (p.map f).set l (f a) := by
  cases l <;> rfl

theorem get_add_get_le_sum (p : PerLane Nat) {l m : Lane} (h : l ≠ m) : p.get l + p.get m ≤ p.sum := by
  cases l <;> cases m <;> first | exact absurd rfl h | (simp only [sum, get]; omega)

theorem toList_eq (p : PerLane α) : p.toList = Lane.all.map p.get := rfl

theorem ext_get {p q : PerLane α} (h : ∀ l, p.get l = q.get l) : p = q := by
  have h1 := h .north
  have h2 := h .south
  have h3 := h .east
  have h4 := h .west
  cases p; cases q
  simp only [get] at h1 h2 h3 h4
  subst h1; subst h2; subst h3; subst h4
  rfl

end PerLane

end Crossroads
