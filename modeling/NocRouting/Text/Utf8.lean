import NocRouting.Text.Quoted

/-!
# UTF-8

Files hold octets, which are decoded as UTF-8.  The leading octet of a character says how many
octets follow and from which ranges they have to be; the ranges leave out overlong forms, surrogates
and everything beyond the last code point.  Decoding ends at the first octet that cannot be part of
a character.
-/

namespace NocRouting.Text

/-- Why octets are no text. -/
inductive Utf8Cause where
  /-- An octet cannot lead a character. -/
  | invalidStart
  /-- An octet cannot follow those before it. -/
  | invalidContinuation
  /-- The octets end within a character. -/
  | unexpectedEnd

/-- The octets that are no text: those of a character that was begun. -/
structure Utf8Fault where
  /-- What is wrong. -/
  cause : Utf8Cause
  /-- The position of the first octet. -/
  first : Nat
  count : Nat
  /-- The first octet. -/
  octet : Nat

namespace Utf8

def reason : Utf8Cause → String
  | .invalidStart => "invalid start byte"
  | .invalidContinuation => "invalid continuation byte"
  | .unexpectedEnd => "unexpected end of data"

/-- The wording of a fault: a single octet is shown, several are given by position. -/
def message (f : Utf8Fault) : String :=
  "'utf-8' codec can't decode " ++
    (if f.count = 1 then
      "byte 0x" ++ String.ofList (hexadecimal 2 f.octet) ++ " in position " ++ toString f.first
    else
      "bytes in position " ++ toString f.first ++ "-" ++ toString (f.first + f.count - 1)) ++
    ": " ++ reason f.cause

/-- A character that was begun. -/
structure Begun where
  /-- The position of its leading octet. -/
  first : Nat
  /-- Its leading octet. -/
  lead : Nat
  /-- The number of its octets so far. -/
  count : Nat
  /-- The bits of its code point so far. -/
  bits : Nat
  /-- The ranges of the octets that are still to come. -/
  expected : List (Nat × Nat)

/-- The range of an octet that follows, where it is not restricted. -/
def tail : Nat × Nat := (0x80, 0xBF)

/-- The bits of a leading octet, and the ranges of the octets that have to follow. -/
def lead? (b : Nat) : Option (Nat × List (Nat × Nat)) :=
  if b < 0x80 then some (b, [])
  else if b < 0xC2 then none
  else if b < 0xE0 then some (b - 0xC0, [tail])
  else if b = 0xE0 then some (0, [(0xA0, 0xBF), tail])
  else if b = 0xED then some (0xD, [(0x80, 0x9F), tail])
  else if b < 0xF0 then some (b - 0xE0, [tail, tail])
  else if b = 0xF0 then some (0, [(0x90, 0xBF), tail, tail])
  else if b < 0xF4 then some (b - 0xF0, [tail, tail, tail])
  else if b = 0xF4 then some (4, [(0x80, 0x8F), tail, tail])
  else none

/-- The fault of a character that was begun. -/
def Begun.fault (c : Begun) (cause : Utf8Cause) : Utf8Fault :=
  ⟨cause, c.first, c.count, c.lead⟩

/-- Decode octets from a position on, where a character may have been begun, after the given
characters, of which the last comes first. -/
def decodeFrom (position : Nat) (done : List Char) :
    Option Begun → List Nat → Except Utf8Fault (List Char)
  | none, [] => .ok done.reverse
  | some c, [] => .error (c.fault .unexpectedEnd)
  | none, b :: rest =>
    match lead? b with
    | none => .error ⟨.invalidStart, position, 1, b⟩
    | some (bits, []) => decodeFrom (position + 1) (Char.ofNat bits :: done) none rest
    | some (bits, expected) =>
      decodeFrom (position + 1) done (some ⟨position, b, 1, bits, expected⟩) rest
  | some c, b :: rest =>
    match c.expected with
    | [] => .error (c.fault .invalidContinuation)
    | (low, high) :: more =>
      if low ≤ b ∧ b ≤ high then
        let bits := c.bits * 64 + (b - 0x80)
        if more.isEmpty then decodeFrom (position + 1) (Char.ofNat bits :: done) none rest
        else
          decodeFrom (position + 1) done
            (some { c with count := c.count + 1, bits := bits, expected := more }) rest
      else .error (c.fault .invalidContinuation)

/-- The text that some octets encode. -/
def decode (octets : List Nat) : Except Utf8Fault (List Char) :=
  decodeFrom 0 [] none octets

end Utf8

/-- A text in which every end of a line is a single line feed. -/
def unifyLines : List Char → List Char
  | '\r' :: '\n' :: rest => '\n' :: unifyLines rest
  | c :: rest => (if c == '\r' then '\n' else c) :: unifyLines rest
  | [] => []

/-- Only line feeds end the lines of a text whose ends of lines are unified. -/
theorem not_mem_unifyLines (text : List Char) : '\r' ∉ unifyLines text := by
  fun_induction unifyLines text with
  | case1 rest ih => simp [ih]
  | case2 c rest _ ih =>
    simp only [List.mem_cons, not_or]
    refine ⟨?_, ih⟩
    by_cases h : c = '\r'
    · simp [h]
    · simp [h, Ne.symm h]
  | case3 => simp

end NocRouting.Text
