import NocRouting.Number.Nearest

/-!
# The shortest decimal that reads back

A positive double `m * 2 ^ e` is the nearest one to every real of an interval around it.  Of the
decimals in that interval the one with the fewest digits is chosen, and among those the nearest to
the double.  The grids of 1, 2, … 17 digits are tried in turn.  On each, only the two neighbours of
the double need a look: if any point of the grid lies in the interval, one of them does.
-/

namespace NocRouting

-- Powers are those of core, whatever a reader of this module has loaded besides.
attribute [local instance (2000)] instPowNat

/-- A positive decimal: `coefficient * 10 ^ exponent`. -/
structure Decimal where
  /-- The digits, read as a whole number. -/
  coefficient : Nat
  /-- The power of ten of the last digit. -/
  exponent : Int
  deriving DecidableEq

/-- The reals that round to a given double, with the double itself: each bound is a whole number
of units of `2 ^ exponent`. -/
structure RoundingInterval where
  /-- The lower end. -/
  low : Nat
  /-- The double. -/
  value : Nat
  /-- The upper end. -/
  high : Nat
  /-- The power of two of the unit. -/
  exponent : Int
  /-- The ends round to the double as well. -/
  closed : Bool

namespace RoundingInterval

/-- The interval of the double `m * 2 ^ e`.  It reaches halfway to either neighbour; the lower
neighbour of a power of two is only half as far away, the least normal number excepted.  The ends
belong to the double with the even significand. -/
def ofMagnitude (m : Nat) (e : Int) : RoundingInterval where
  low := 4 * m - (if m = 2 ^ Double.fractionWidth ∧ -1074 < e then 1 else 2)
  value := 4 * m
  high := 4 * m + 2
  exponent := e - 2
  closed := m % 2 = 0

/-- One unit of the interval in units of the grid `10 ^ p`, as a ratio. -/
def unitRatio (t : RoundingInterval) (p : Int) : Nat × Nat :=
  (2 ^ t.exponent.toNat * 10 ^ (-p).toNat, 10 ^ p.toNat * 2 ^ (-t.exponent).toNat)

/-- The decimal `c * 10 ^ p` lies in the interval. -/
def contains (t : RoundingInterval) (c : Nat) (p : Int) : Bool :=
  let (n, d) := t.unitRatio p
  if t.closed then t.low * n ≤ c * d && c * d ≤ t.high * n
  else t.low * n < c * d && c * d < t.high * n

/-- The point of the grid `10 ^ p` to choose, if one lies in the interval: the nearest, and of two
equally near ones the even one. -/
def nearestOnGrid (t : RoundingInterval) (p : Int) : Option Nat :=
  let (n, d) := t.unitRatio p
  let q := t.value * n / d
  let r := t.value * n % d
  if t.contains q p then
    if t.contains (q + 1) p && (d < 2 * r || (2 * r == d && q % 2 == 1)) then some (q + 1)
    else some q
  else if t.contains (q + 1) p then some (q + 1)
  else none

/-- The double is less than `10 ^ p`. -/
def isBelowPower (t : RoundingInterval) (p : Int) : Bool :=
  let (n, d) := t.unitRatio p
  t.value * n < d

/-- The number of digits before the point: the least `p` with the double below `10 ^ p`.  The
logarithm to the base two bounds it to within two. -/
def digitsBeforePoint (t : RoundingInterval) : Int :=
  let guess := (((Nat.log2 t.value : Int) + t.exponent) * 30103).fdiv 100000
  (([-1, 0, 1, 2] : List Int).map (guess + ·)).find? t.isBelowPower |>.getD (guess + 3)

/-- The shortest decimal in the interval. -/
def shortest (t : RoundingInterval) : Decimal :=
  let top := t.digitsBeforePoint
  (List.range 17).findSome? (fun (k : Nat) =>
      let p := top - 1 - (k : Int)
      (t.nearestOnGrid p).map (⟨·, p⟩))
    |>.getD ⟨t.value * (t.unitRatio (top - 17)).1 / (t.unitRatio (top - 17)).2, top - 17⟩

end RoundingInterval

/-- The shortest decimal that reads back as the magnitude of a finite double other than zero. -/
def Decimal.shortest (x : Float) : Decimal :=
  let (m, e) := Exact.magnitude x
  (RoundingInterval.ofMagnitude m e).shortest

/-- The magnitude of a finite double other than zero, rounded to a number of digits; a half goes to
the even digit. -/
def Decimal.rounded (digits : Nat) (x : Float) : Decimal :=
  let (m, e) := Exact.magnitude x
  let t := RoundingInterval.ofMagnitude m e
  let p := t.digitsBeforePoint - digits
  let (n, d) := t.unitRatio p
  ⟨roundHalfEven (t.value * n) d, p⟩

end NocRouting
