/-!
# Digits and blanks in the numbers that users write

A decimal digit of any script stands for its value, and white space of any script may surround a
number.  `simplify` turns both into their ASCII forms, which is all that the grammars of numbers
then have to know.  The tables are as of version 14 of the character database.
-/

namespace NocRouting.Text

/-- The zeros of the scripts that have decimal digits, ASCII excepted; each is followed by the other
nine digits of its script. -/
def zeroDigits : List Nat := [
    0x660, 0x6F0, 0x7C0, 0x966, 0x9E6, 0xA66, 0xAE6, 0xB66, 0xBE6, 0xC66,
    0xCE6, 0xD66, 0xDE6, 0xE50, 0xED0, 0xF20, 0x1040, 0x1090, 0x17E0, 0x1810,
    0x1946, 0x19D0, 0x1A80, 0x1A90, 0x1B50, 0x1BB0, 0x1C40, 0x1C50, 0xA620, 0xA8D0,
    0xA900, 0xA9D0, 0xA9F0, 0xAA50, 0xABF0, 0xFF10, 0x104A0, 0x10D30, 0x11066, 0x110F0,
    0x11136, 0x111D0, 0x112F0, 0x11450, 0x114D0, 0x11650, 0x116C0, 0x11730, 0x118E0, 0x11950,
    0x11C50, 0x11D50, 0x11DA0, 0x16A60, 0x16AC0, 0x16B50, 0x1D7CE, 0x1D7D8, 0x1D7E2, 0x1D7EC,
    0x1D7F6, 0x1E140, 0x1E2F0, 0x1E950, 0x1FBF0]

/-- The ranges of white space beyond ASCII. -/
def blankRanges : List (Nat × Nat) := [
    (0x85, 0x85), (0xA0, 0xA0), (0x1680, 0x1680), (0x2000, 0x200A), (0x2028, 0x2029),
    (0x202F, 0x202F), (0x205F, 0x205F), (0x3000, 0x3000)]

/-- The character is white space that may surround a number.  The separators of ASCII are none. -/
def isBlank (c : Char) : Bool :=
  if c.toNat < 0x80 then
    c == ' ' || (0x09 ≤ c.toNat && c.toNat ≤ 0x0D)
  else blankRanges.any fun (first, last) => first ≤ c.toNat && c.toNat ≤ last

/-- The character is white space that may stand between words, which includes the separators of
ASCII. -/
def isSpace (c : Char) : Bool :=
  isBlank c || (0x1C ≤ c.toNat && c.toNat ≤ 0x1F)

/-- The value of a decimal digit of any script. -/
def digitValue? (c : Char) : Option Nat :=
  if c.toNat < 0x80 then
    if c.isDigit then some (c.toNat - '0'.toNat) else none
  else
    (zeroDigits.find? fun z => z ≤ c.toNat && c.toNat < z + 10).map (c.toNat - ·)

/-- Digits of any script as ASCII digits, and white space of any script as spaces. -/
def simplify (text : List Char) : List Char :=
  text.map fun c =>
    if isBlank c then ' '
    else
      match digitValue? c with
      | some d => Nat.digitChar d
      | none => c

/-- The text without the spaces at either end. -/
def trimSpaces (text : List Char) : List Char :=
  ((text.dropWhile (· == ' ')).reverse.dropWhile (· == ' ')).reverse

/-- White space in the sense of core is white space here. -/
theorem isBlank_of_isWhitespace (c : Char) (h : c.isWhitespace = true) : isBlank c = true := by
  simp only [Char.isWhitespace, Bool.or_eq_true, decide_eq_true_eq] at h
  rcases h with ((rfl | rfl) | rfl) | rfl <;> decide

end NocRouting.Text
