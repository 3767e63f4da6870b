import NocRouting.Number.Basic
import NocRouting.Number.Shortest

/-!
# How numbers are written

Whole numbers are written in decimal.  A double is written with the fewest digits that read back,
and always so that it cannot be taken for a whole number: `2.0`, `1e+16`, `1e-05`.  Reports of
elapsed time use a fixed number of places instead.
-/

namespace NocRouting

-- Powers are those of core, whatever a reader of this module has loaded besides.
attribute [local instance (2000)] instPowNat

/-- The decisions that turn digits into text. -/
structure DoubleLayout where
  /-- Numbers whose first digit stands for a smaller power of ten are written with an exponent. -/
  leastPositional : Int
  /-- Numbers whose first digit stands for this power of ten, or a larger one, are written with an
  exponent. -/
  leastExponential : Int
  /-- What follows a number that has no digits after the point. -/
  wholeEnding : String
  /-- The least number of digits of an exponent. -/
  exponentDigits : Nat

/-- The layout of every double that is shown: from `0.0001` up to, but not including, `1e+16` the
point is written in its place. -/
def DoubleLayout.standard : DoubleLayout where
  leastPositional := -4
  leastExponential := 16
  wholeEnding := ".0"
  exponentDigits := 2

/-- The brief layout, with six digits at most and no ending for whole numbers. -/
def DoubleLayout.brief : DoubleLayout where
  leastPositional := -4
  leastExponential := 6
  wholeEnding := ""
  exponentDigits := 2

/-- Zeros in front of a text, up to a given length. -/
def padZeros (width : Nat) (digits : String) : String :=
  "".pushn '0' (width - digits.length) ++ digits

namespace DoubleLayout

/-- The digits of a coefficient without the zeros at its end, with the power of ten of the first. -/
def digitsOf (d : Decimal) : List Char × Int :=
  let all := (toString d.coefficient).toList
  let kept := (all.reverse.dropWhile (· == '0')).reverse
  (kept, (all.length : Int) - 1 + d.exponent)

/-- A positive decimal as text. -/
def render (s : DoubleLayout) (d : Decimal) : String :=
  let (digits, first) := digitsOf d
  if first < s.leastPositional ∨ s.leastExponential ≤ first then
    let fraction := digits.drop 1
    String.ofList (digits.take 1) ++
      (if fraction.isEmpty then "" else "." ++ String.ofList fraction) ++
      (if first < 0 then "e-" else "e+") ++
      padZeros s.exponentDigits (toString first.natAbs)
  else if first < 0 then
    "0." ++ "".pushn '0' (-first - 1).toNat ++ String.ofList digits
  else
    let before := first.toNat + 1
    if digits.length ≤ before then
      String.ofList digits ++ "".pushn '0' (before - digits.length) ++ s.wholeEnding
    else
      String.ofList (digits.take before) ++ "." ++ String.ofList (digits.drop before)

end DoubleLayout

/-- A sign, in front of what is written for a magnitude. -/
def signedText (negative : Bool) (magnitude : String) : String :=
  if negative then "-" ++ magnitude else magnitude

/-- A double in some layout, with digits chosen for its magnitude. -/
def DoubleLayout.text (s : DoubleLayout) (digits : Float → Decimal) (x : Float) : String :=
  match Exact.ofFloat x with
  | .nan => "nan"
  | .infinite negative => signedText negative "inf"
  | .finite d =>
    signedText (Exact.signBit x) (if d = .zero then "0" ++ s.wholeEnding else s.render (digits x))

def doubleText (x : Float) : String :=
  DoubleLayout.standard.text Decimal.shortest x

/-- A double as text of six digits at most. -/
def briefText (x : Float) : String :=
  DoubleLayout.brief.text (Decimal.rounded 6) x

/-- A double with a fixed number of places after the point, at least one; a half goes to the even
digit. -/
def doubleFixed (places : Nat) (x : Float) : String :=
  match Exact.ofFloat x with
  | .nan => "nan"
  | .infinite negative => signedText negative "inf"
  | .finite _ =>
    let (m, e) := Exact.magnitude x
    let units := roundHalfEven (m * 2 ^ e.toNat * 10 ^ places) (2 ^ (-e).toNat)
    let digits := (padZeros (places + 1) (toString units)).toList
    let before := digits.length - places
    signedText (Exact.signBit x)
      (String.ofList (digits.take before) ++ "." ++ String.ofList (digits.drop before))

def Number.text : Number → String
  | .int n => toString n
  | .float x => doubleText x

end NocRouting
