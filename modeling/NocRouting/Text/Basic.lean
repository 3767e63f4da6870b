/-!
# Texts

Descriptions are written in JSON, whose strings are made of the code units of UTF-16.  A character
beyond the first 65536 code points is two of them, and a description can hold one of the two by
itself.  So a text is a list of code points, each a character or one half of a character.

* `Text.ofString` is a text without halves; a string stands for it wherever a text is expected.
* `Text.string?` is the string that a text without halves stands for.
* `CodePoint.number` tells code points apart (`CodePoint.number_inj`) and orders them.
* `Charset` says what can be written to an output.
-/

namespace NocRouting

/-- A character, or one half of a character by itself. -/
inductive CodePoint where
  | char (c : Char)
  /-- A half, by its place among the 2048 halves. -/
  | half (place : Fin 0x800)
  deriving DecidableEq

namespace CodePoint

instance : Coe Char CodePoint := ⟨char⟩

/-- The number of the first half. -/
def firstHalf : Nat := 0xD800

def number : CodePoint → Nat
  | char c => c.toNat
  | half i => firstHalf + i

/-- The character that a code point is. -/
def char? : CodePoint → Option Char
  | char c => some c
  | half _ => none

def isHalf : CodePoint → Bool
  | char _ => false
  | half _ => true

/-- The code unit is the first half of a character. -/
def isHigh (unit : Nat) : Bool := 0xD800 ≤ unit && unit ≤ 0xDBFF

/-- The code unit is the second half of a character. -/
def isLow (unit : Nat) : Bool := 0xDC00 ≤ unit && unit ≤ 0xDFFF

/-- The code point that a code unit stands for by itself. -/
def ofUnit (unit : Nat) : CodePoint :=
  if h : firstHalf ≤ unit ∧ unit < firstHalf + 0x800 then half ⟨unit - firstHalf, by omega⟩
  else char (Char.ofNat unit)

/-- The character whose halves are two code units. -/
def ofPair (high low : Nat) : CodePoint :=
  char (Char.ofNat (0x10000 + (high - 0xD800) * 0x400 + (low - 0xDC00)))

/-- No character has the number of a half. -/
theorem number_inj {c d : CodePoint} : c.number = d.number ↔ c = d := by
  have apart : ∀ (c : Char) (i : Fin 0x800), c.toNat ≠ firstHalf + i := by
    intro c i h
    have hv := c.valid
    have hi := i.isLt
    simp only [UInt32.isValidChar, Nat.isValidChar, Char.toNat, firstHalf] at hv h
    omega
  constructor
  · intro h
    cases c with
    | char c =>
      cases d with
      | char d => rw [Char.toNat_inj.mp h]
      | half i => exact absurd h (apart c i)
    | half i =>
      cases d with
      | char d => exact absurd h.symm (apart d i)
      | half j =>
        simp only [number, Nat.add_left_cancel_iff] at h
        rw [Fin.ext h]
  · rintro rfl
    rfl

/-- A code unit is the number of the code point that it stands for. -/
theorem number_ofUnit {unit : Nat} (h : unit < 0x10000) : (ofUnit unit).number = unit := by
  unfold ofUnit
  split
  · next hu => simp only [number]; omega
  · next hu =>
    have hv : unit.isValidChar := by
      simp only [Nat.isValidChar, firstHalf] at hu ⊢
      omega
    rw [Char.ofNat, dif_pos hv]
    rfl

end CodePoint

abbrev Text := List CodePoint

/-- The code points that an output has a form for. -/
abbrev Charset := CodePoint → Bool

/-- The charset of all characters.  Halves have no form of their own. -/
def Charset.characters : Charset := fun p => !p.isHalf

namespace Text

def ofString (s : String) : Text :=
  s.toList.map .char

instance : Coe String Text := ⟨ofString⟩

/-- The characters of a text, if it has no halves. -/
def chars? (text : Text) : Option (List Char) :=
  text.mapM CodePoint.char?

/-- The characters of a text, where a replacement stands for each half. -/
def legible (text : Text) : List Char :=
  text.map fun c => c.char?.getD '\uFFFD'

/-- The string that a text stands for, if it has no halves. -/
def string? (text : Text) : Option String :=
  text.chars?.map String.ofList

/-- Texts with something between them. -/
def joined (between : Text) (parts : List Text) : Text :=
  between.intercalate parts

/-- The numbers of the code points of a text, which order texts. -/
def numbers (text : Text) : List Nat :=
  text.map CodePoint.number

theorem chars?_map_char (cs : List Char) : chars? (cs.map .char) = some cs := by
  induction cs with
  | nil => rfl
  | cons c rest ih =>
    simp only [chars?, List.map_cons, List.mapM_cons] at ih ⊢
    simp [ih, CodePoint.char?]

@[simp] theorem string?_ofString (s : String) : string? (ofString s) = some s := by
  simp [string?, ofString, chars?_map_char]

end Text

end NocRouting
