import NocRouting.Number.Basic
import NocRouting.Text.Basic
import NocRouting.Text.Numeral

/-!
# Numbers that users write

The numbers on a command line, and positions given as text, follow one grammar.  White space around
a number is ignored, digits may be of any script and may be grouped by single underscores.

* `wholeNumber` reads a whole number, of any reasonable size: `+1_000`.
* `double?` reads a double: digits with an optional point and exponent, or one of the names
  `inf`, `infinity` and `nan` in any case.
* `doubleOfDecimal` is the double nearest to a decimal, an infinity beyond the largest.
-/

namespace NocRouting

-- Powers are those of core, whatever a reader of this module has loaded besides.
attribute [local instance (2000)] instPowNat

/-- The double nearest to `coefficient * 10 ^ exponent`, with a sign.  The number of digits bounds
the magnitude, so that an enormous exponent is never computed with. -/
def doubleOfDecimal (negative : Bool) (coefficient : Nat) (exponent : Int) : Float :=
  let infinite : Float := if negative then -(1.0 / 0.0) else 1.0 / 0.0
  let zero : Float := if negative then -0.0 else 0.0
  let digits : Int := (Nat.toDigits 10 coefficient).length
  if coefficient = 0 then zero
  else if 400 < digits + exponent then infinite
  else if digits + exponent < -400 then zero
  else if exponent < 0 then
    (nearestDouble? negative coefficient (10 ^ (-exponent).toNat)).getD infinite
  else
    (nearestDouble? negative (coefficient * 10 ^ exponent.toNat) 1).getD infinite

namespace Reading

/-- The greatest number of digits of a whole number. -/
def maxDigits : Nat := 4300

/-- The wording for a whole number with more digits than that. -/
def tooManyDigits (count : Nat) : String :=
  "Exceeds the limit (" ++ toString maxDigits ++
    " digits) for integer string conversion: value has " ++ toString count ++
    " digits; use sys.set_int_max_str_digits() to increase the limit"

/-- Why a text is no whole number. -/
inductive WholeFault where
  /-- It does not follow the grammar. -/
  | form
  /-- It has too many digits. -/
  | digits (count : Nat)

/-- The value of a list of ASCII digits. -/
def ofDigits (digits : List Char) : Nat :=
  digits.foldl (fun n c => 10 * n + (c.toNat - '0'.toNat)) 0

/-- The text without its underscores, each of which has to stand between two digits. -/
def ungroup? (text : List Char) : Option (List Char) :=
  go none text
where
  /-- The rest of a text after a given character. -/
  go (last : Option Char) : List Char → Option (List Char)
    | [] => some []
    | '_' :: c :: rest =>
      if last.any Char.isDigit && c.isDigit then (go (some c) rest).map (c :: ·) else none
    | c :: rest => if c == '_' then none else (go (some c) rest).map (c :: ·)

/-- The digits in front of a text, without the underscores that group them, and the rest. -/
def splitGrouped? (text : List Char) : Option (List Char × List Char) :=
  let isInside (c : Char) : Bool := c.isDigit || c == '_'
  (ungroup? (text.takeWhile isInside)).map (·, text.dropWhile isInside)

/-- The sign in front of a number, and the number. -/
def splitSign : List Char → Bool × List Char
  | '-' :: rest => (true, rest)
  | '+' :: rest => (false, rest)
  | text => (false, text)

/-- Digits and nothing else, at least one. -/
def allDigits (text : List Char) : Bool :=
  !text.isEmpty && text.all Char.isDigit

/-- The digits in front of a text, and the rest. -/
def splitDigits (text : List Char) : List Char × List Char :=
  (text.takeWhile Char.isDigit, text.dropWhile Char.isDigit)

/-- An exponent, if one follows, and nothing after it. -/
def exponent? : List Char → Option Int
  | [] => some 0
  | c :: rest =>
    if c == 'e' || c == 'E' then
      let (negative, digits) := splitSign rest
      if allDigits digits then
        some (if negative then -(ofDigits digits : Int) else ofDigits digits)
      else none
    else none

/-- A magnitude in decimal, with an optional point and exponent. -/
def magnitude? (negative : Bool) (text : List Char) : Option Float :=
  let (whole, rest) := splitDigits text
  let (fraction, rest) :=
    match rest with
    | '.' :: more => splitDigits more
    | _ => ([], rest)
  if whole.isEmpty && fraction.isEmpty then none
  else
    (exponent? rest).map fun e =>
      doubleOfDecimal negative (ofDigits (whole ++ fraction)) (e - fraction.length)

/-- A magnitude given by name. -/
def named? (negative : Bool) (text : List Char) : Option Float :=
  let name := String.ofList (text.map Char.toLower)
  if name == "inf" || name == "infinity" then
    some (if negative then -(1.0 / 0.0) else 1.0 / 0.0)
  else if name == "nan" then some (0.0 / 0.0)
  else none

end Reading

/-- The whole number that a text stands for.  Its digits are counted before anything that follows
them is looked at. -/
def wholeNumber (text : Text) : Except Reading.WholeFault Int :=
  let (negative, unsigned) := Reading.splitSign (Text.trimSpaces (Text.simplify text.legible))
  match Reading.splitGrouped? unsigned with
  | some (digits, rest) =>
    if Reading.maxDigits < digits.length then .error (.digits digits.length)
    else if digits.isEmpty || !rest.isEmpty then .error .form
    else .ok (if negative then -(Reading.ofDigits digits : Int) else Reading.ofDigits digits)
  | none => .error .form

/-- The double that a text stands for. -/
def double? (text : Text) : Option Float :=
  let (negative, rest) := Reading.splitSign (Text.trimSpaces (Text.simplify text.legible))
  match Reading.ungroup? rest with
  | some rest => (Reading.named? negative rest).or (Reading.magnitude? negative rest)
  | none => none

end NocRouting
