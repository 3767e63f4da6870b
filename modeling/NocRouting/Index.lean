import NocRouting.Fault

/-!
# Numbers as they are given

Routers are numbered, and a link is made between two numbers.  A truth value counts as `0` or `1`
there; what is shown of the link afterwards keeps the form in which the number was given.
-/

namespace NocRouting

/-- A number in the form in which it was given. -/
inductive Index where
  | number (n : Int)
  | truth (b : Bool)
  deriving DecidableEq, Repr

namespace Index

/-- The number that is meant. -/
def value : Index → Int
  | number n => n
  | truth b => b.toInt

def toValue : Index → Value
  | number n => .int n
  | truth b => .bool b

def text : Index → String
  | number n => toString n
  | truth b => if b then "True" else "False"

/-- The number that a value gives. -/
def ofValue : Value → Except Fault Index
  | .number (.int n) => .ok (number n)
  | .bool b => .ok (truth b)
  | _ => .error .mismatch

@[simp] theorem value_number (n : Int) : (number n).value = n := rfl

@[simp] theorem ofValue_int (n : Int) : ofValue (.int n) = .ok (number n) := rfl

/-- A number that a value gives picks what the value picks. -/
theorem asIndex_eq (v : Value) : v.asIndex = (ofValue v).map value := by
  unfold Value.asIndex ofValue
  split <;> simp [Except.map, value]

end Index

end NocRouting
