import NocRouting.Fault
import NocRouting.Enumeration

/-!
# Compass directions

A link of a mesh runs in one of four directions.  They are numbered anticlockwise from the east, so
that opposite directions are two steps apart.

* `Direction.ofVector` reads a direction off the signs of a displacement; its length is of no
  importance.
-/

namespace NocRouting

inductive Direction where
  /-- Towards larger columns. -/
  | east
  /-- Towards larger rows. -/
  | north
  /-- Towards smaller columns. -/
  | west
  /-- Towards smaller rows. -/
  | south
  deriving DecidableEq, Repr

namespace Direction

/-- The directions, anticlockwise from the east. -/
def all : List Direction :=
  [east, north, west, south]

theorem mem_all (d : Direction) : d ∈ all := by
  cases d <;> decide

def code : Direction → Nat
  | east => 0
  | north => 1
  | west => 2
  | south => 3

/-- The direction of a number, counted around the compass. -/
def ofCode (n : Nat) : Direction :=
  match n % 4 with
  | 0 => east
  | 1 => north
  | 2 => west
  | _ => south

def name : Direction → String
  | east => "east"
  | north => "north"
  | west => "west"
  | south => "south"

/-- One step in a direction. -/
def vector : Direction → Int × Int
  | east => (1, 0)
  | north => (0, 1)
  | west => (-1, 0)
  | south => (0, -1)

def opposite (d : Direction) : Direction :=
  ofCode (d.code + 2)

def isHorizontal : Direction → Bool
  | east => true
  | west => true
  | _ => false

/-- The direction with the number that a value stands for. -/
def ofValue (v : Value) : Except Fault Direction :=
  match all.find? fun d => v.same (.int d.code) with
  | some d => .ok d
  | none => .error (.refused (.notMember v "Direction"))

/-- The direction of a displacement, which has to be strictly horizontal or vertical.  Only its
signs matter. -/
def ofVector (dx dy : Value) : Except Fault Direction :=
  match dx.eqv (.int 0), dy.eqv (.int 0) with
  | false, true => do return if (← isPositive dx) then east else west
  | true, false => do return if (← isPositive dy) then north else south
  | _, _ => .error (.refused (.slanted dx dy))
where
  /-- The value is a number above zero. -/
  isPositive (v : Value) : Except Fault Bool :=
    match v.number? with
    | some n => .ok ((Number.int 0).lt n)
    | none => .error .mismatch

@[simp] theorem ofCode_code (d : Direction) : ofCode d.code = d := by
  cases d <;> rfl

@[simp] theorem opposite_opposite (d : Direction) : d.opposite.opposite = d := by
  cases d <;> rfl

theorem vector_opposite (d : Direction) :
    d.opposite.vector = (-d.vector.1, -d.vector.2) := by
  cases d <;> rfl

/-- The list of members, as documented. -/
def members : List Member :=
  all.map fun d => ⟨d.name, d.code⟩

end Direction

end NocRouting
