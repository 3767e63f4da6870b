/-!
# The exact value of a double

Every finite double is a dyadic rational.  `Exact.ofFloat` reads it off the bits, so comparisons
between doubles, and between doubles and whole numbers of any size, are made without rounding.

* `Exact.le` and `Exact.lt` order the exact values; nothing is comparable with `nan`.
* `Exact.floor?` rounds a finite value down to a whole number.
-/

namespace NocRouting

-- Powers are those of core, whatever a reader of this module has loaded besides.
attribute [local instance (2000)] instPowNat

/-- The number of stored bits of the significand of a double. -/
abbrev Double.fractionWidth : Nat := 52

/-- The number of bits of the exponent of a double. -/
abbrev Double.exponentWidth : Nat := 11

/-- The number of bits of a double below its sign. -/
abbrev Double.magnitudeWidth : Nat := fractionWidth + exponentWidth

/-- What a number stands for: no number at all, one of the two infinities or a dyadic rational. -/
inductive Exact where
  /-- The result of an operation which has none. -/
  | nan
  /-- An infinity, with its sign. -/
  | infinite (negative : Bool)
  | finite (value : Dyadic)
  deriving DecidableEq

namespace Exact

def ofInt (n : Int) : Exact :=
  .finite (Dyadic.ofInt n)

def signBit (x : Float) : Bool :=
  x.toBits.toNat / 2 ^ Double.magnitudeWidth % 2 = 1

def exponentBits (x : Float) : Nat :=
  x.toBits.toNat / 2 ^ Double.fractionWidth % 2 ^ Double.exponentWidth

def fractionBits (x : Float) : Nat :=
  x.toBits.toNat % 2 ^ Double.fractionWidth

/-- The magnitude of a finite double as `m * 2 ^ e`: the pair `(m, e)`.  Subnormal numbers share
the exponent of the least normal ones, and lack their leading bit. -/
def magnitude (x : Float) : Nat × Int :=
  if exponentBits x = 0 then (fractionBits x, -1074)
  else (fractionBits x + 2 ^ Double.fractionWidth, (exponentBits x : Int) - 1075)

def ofFloat (x : Float) : Exact :=
  if exponentBits x = 2047 then
    if fractionBits x = 0 then .infinite (signBit x) else .nan
  else
    let (m, e) := magnitude x
    .finite (Dyadic.ofIntWithPrec (if signBit x then -(m : Int) else m) (-e))

/-- The order of exact values.  Nothing is at most, or at least, `nan`. -/
def le : Exact → Exact → Bool
  | .nan, _ => false
  | _, .nan => false
  | .infinite true, _ => true
  | _, .infinite false => true
  | .finite a, .finite b => decide (a ≤ b)
  | _, _ => false

def lt (a b : Exact) : Bool :=
  le a b && !le b a

/-- The greatest whole number which is at most a dyadic rational. -/
def floorDyadic : Dyadic → Int
  | .zero => 0
  | .ofOdd n k _ => if k ≤ 0 then n * 2 ^ (-k).toNat else n.fdiv (2 ^ k.toNat)

/-- The greatest whole number which is at most a finite value. -/
def floor? : Exact → Option Int
  | .finite d => some (floorDyadic d)
  | _ => none

@[simp] theorem floor?_nan : floor? .nan = none := rfl

@[simp] theorem floor?_infinite (s : Bool) : floor? (.infinite s) = none := rfl

@[simp] theorem le_nan (a : Exact) : le a .nan = false := by
  cases a <;> rfl

@[simp] theorem nan_le (a : Exact) : le .nan a = false := rfl

@[simp] theorem le_finite (a b : Dyadic) : le (.finite a) (.finite b) = decide (a ≤ b) := rfl

end Exact

end NocRouting
