import NocRouting.Value

/-!
# Positions on a device

A position is a cell of one of the layers of a device.  Whole numbers are the rule, but nothing
depends on it: anything that can identify something can be a coordinate, and positions are compared
coordinate by coordinate.
-/

namespace NocRouting

/-- A place on the device. -/
structure Position where
  /-- The column, counted eastwards. -/
  x : Value
  /-- The row, counted northwards. -/
  y : Value
  /-- The die layer. -/
  layer : Value

namespace Position

/-- The position with whole coordinates. -/
abbrev ofInts (x y layer : Int) : Position := ⟨.int x, .int y, .int layer⟩

instance : Inhabited Position := ⟨ofInts 0 0 0⟩

/-- Two positions are the same place. -/
def same (p q : Position) : Bool :=
  p.x.same q.x && p.y.same q.y && p.layer.same q.layer

def toValues (p : Position) : List Value :=
  [p.x, p.y, p.layer]

def text (p : Position) : Text :=
  Value.tupleText p.toValues

@[simp] theorem same_ofInts (x y l x' y' l' : Int) :
    (ofInts x y l).same (ofInts x' y' l') = (x == x' && y == y' && l == l') := by
  simp [same]

end Position

end NocRouting
