import NocRouting.Number.Exact
import NocRouting.Number.Nearest

/-!
# Numbers

A number is either a whole number of any size or a double, and keeps that form: `1` and `1.0` are
equal but are written differently.  Whole numbers are computed with exactly; as soon as a double
takes part, the arithmetic is that of doubles.  Comparisons are always exact.

* `Number.same` is the equality that identifies things: it ignores the form.
* `Number.clash` says when a whole number is too large to meet a double.
-/

namespace NocRouting

/-- The whole number fits a word of 64 bits. -/
def IsWord (n : Int) : Prop :=
  Int64.minValue.toInt ≤ n ∧ n ≤ Int64.maxValue.toInt

instance : DecidablePred IsWord := fun n =>
  inferInstanceAs (Decidable (Int64.minValue.toInt ≤ n ∧ n ≤ Int64.maxValue.toInt))

/-- A whole number of any size or a double. -/
inductive Number where
  | int (n : Int)
  | float (x : Float)

namespace Number

instance : Inhabited Number := ⟨.int 0⟩

/-- The exact value of a number. -/
def exact : Number → Exact
  | .int n => .ofInt n
  | .float x => .ofFloat x

/-- Two numbers have the same value, whatever their forms.  A `nan` is the same as any other. -/
def same : Number → Number → Bool
  | .int m, .int n => m == n
  | a, b => a.exact == b.exact

/-- Two numbers are equal in arithmetic, where nothing equals `nan`. -/
def eqv (a b : Number) : Bool :=
  a.exact != .nan && a.same b

def le : Number → Number → Bool
  | .int m, .int n => m ≤ n
  | a, b => Exact.le a.exact b.exact

def lt : Number → Number → Bool
  | .int m, .int n => m < n
  | a, b => Exact.lt a.exact b.exact

def isZero (a : Number) : Bool :=
  a.same (.int 0)

/-- The double nearest to a number; `none` for a whole number beyond the largest double. -/
def toFloat? : Number → Option Float
  | .int n => nearestDouble? (n < 0) n.natAbs 1
  | .float x => some x

/-- The double nearest to a number, which is an infinity beyond the largest double. -/
def toFloat (a : Number) : Float :=
  match a.toFloat? with
  | some x => x
  | none => if a.lt (.int 0) then -(1.0 / 0.0) else 1.0 / 0.0

/-- One of two numbers is a double, and the other a whole number that has no double near it. -/
def clash : Number → Number → Bool
  | .int m, .float _ => (toFloat? (.int m)).isNone
  | .float _, .int n => (toFloat? (.int n)).isNone
  | _, _ => false

/-- An operation which is exact on whole numbers and otherwise that of doubles. -/
def combine (whole : Int → Int → Int) (double : Float → Float → Float) : Number → Number → Number
  | .int m, .int n => .int (whole m n)
  | a, b => .float (double a.toFloat b.toFloat)

instance : Add Number := ⟨combine (· + ·) (· + ·)⟩

instance : Sub Number := ⟨combine (· - ·) (· - ·)⟩

instance : Mul Number := ⟨combine (· * ·) (· * ·)⟩

instance : Neg Number where
  neg
    | .int n => .int (-n)
    | .float x => .float (-x)

instance (n : Nat) : OfNat Number n := ⟨.int n⟩

/-- The quotient of two numbers as a double, the second of which is not zero.  A quotient of whole
numbers is rounded once, so that it is right for operands of any size; `none` when it, or an
operand, lies beyond the largest double. -/
def quotient? : Number → Number → Option Float
  | .int m, .int n =>
    nearestDouble? ((m < 0) != (n < 0)) m.natAbs n.natAbs
  | a, b =>
    match a.toFloat?, b.toFloat? with
    | some x, some y => some (x / y)
    | _, _ => none

@[simp] theorem same_int (m n : Int) : same (.int m) (.int n) = (m == n) := rfl

@[simp] theorem le_int (m n : Int) : le (.int m) (.int n) = decide (m ≤ n) := rfl

@[simp] theorem lt_int (m n : Int) : lt (.int m) (.int n) = decide (m < n) := rfl

@[simp] theorem isZero_int (n : Int) : isZero (.int n) = (n == 0) := rfl

@[simp] theorem add_int (m n : Int) : (Number.int m + Number.int n) = .int (m + n) := rfl

@[simp] theorem sub_int (m n : Int) : (Number.int m - Number.int n) = .int (m - n) := rfl

@[simp] theorem mul_int (m n : Int) : (Number.int m * Number.int n) = .int (m * n) := rfl

@[simp] theorem neg_int (n : Int) : (-Number.int n) = .int (-n) := rfl

end Number

end NocRouting
