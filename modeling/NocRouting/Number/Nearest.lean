import NocRouting.Number.Exact

/-!
# The double nearest to a ratio

The quotient of two whole numbers, rounded once to the nearest double, with a half going to the
neighbour whose last bit is zero.  This one rule serves the division of whole numbers, their
conversion to doubles (a quotient by one) and the reading of decimals (a quotient by, or a multiple
of, a power of ten).
-/

namespace NocRouting

-- Powers are those of core, whatever a reader of this module has loaded besides.
attribute [local instance (2000)] instPowNat

/-- The quotient of two natural numbers, rounded to the nearest; a half goes to the even one. -/
def roundHalfEven (num den : Nat) : Nat :=
  let q := num / den
  let r := num % den
  if 2 * r < den then q
  else if den < 2 * r then q + 1
  else if q % 2 = 0 then q
  else q + 1

/-- A rounded quotient is the quotient itself or the next number. -/
theorem roundHalfEven_eq_or (num den : Nat) :
    roundHalfEven num den = num / den ∨ roundHalfEven num den = num / den + 1 := by
  simp only [roundHalfEven]
  split
  · exact Or.inl rfl
  · split
    · exact Or.inr rfl
    · split
      · exact Or.inl rfl
      · exact Or.inr rfl

/-- An exact quotient is not changed by rounding. -/
theorem roundHalfEven_mul_right (q den : Nat) (h : 0 < den) :
    roundHalfEven (q * den) den = q := by
  simp [roundHalfEven, Nat.mul_div_cancel q h, h]

namespace Nearest

/-- The ratio `num / den` in units of `2 ^ e`, as a ratio again. -/
def inUnits (num den : Nat) (e : Int) : Nat × Nat :=
  if e < 0 then (num * 2 ^ (-e).toNat, den) else (num, den * 2 ^ e.toNat)

/-- The exponent of the last bit of the double nearest to a positive ratio: the significand has
53 bits, unless that would put its last bit below `2 ^ -1074`. -/
def lastBit (num den : Nat) : Int :=
  let e := (Nat.log2 num : Int) - Nat.log2 den - Double.fractionWidth
  let (n, d) := inUnits num den e
  max (if n / d < 2 ^ Double.fractionWidth then e - 1 else e) (-1074)

/-- The bits, without the sign, of the double nearest to a ratio; `none` when the ratio lies
beyond the largest double. -/
def bits? (num den : Nat) : Option Nat :=
  if num = 0 then some 0
  else
    let e := lastBit num den
    let (n, d) := inUnits num den e
    let b := (e + 1074).toNat * 2 ^ Double.fractionWidth + roundHalfEven n d
    if b < 2047 * 2 ^ Double.fractionWidth then some b else none

end Nearest

/-- The double nearest to the ratio of two natural numbers, with a sign; `none` when the ratio lies
beyond the largest double. -/
def nearestDouble? (negative : Bool) (num den : Nat) : Option Float :=
  (Nearest.bits? num den).map fun b =>
    Float.ofBits (UInt64.ofNat (if negative then 2 ^ Double.magnitudeWidth + b else b))

end NocRouting
