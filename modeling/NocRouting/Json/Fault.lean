import NocRouting.Fault
import NocRouting.Number.Reading

/-!
# Texts that are not JSON

What can be wrong with a JSON text, and where.  Positions are counted in characters, and lines and
columns from one.
-/

namespace NocRouting.Json

/-- What is wrong with a text. -/
inductive Cause where
  /-- A value has to stand here. -/
  | value
  /-- The name of a field has to stand here. -/
  | name
  /-- A colon has to stand here. -/
  | colon
  /-- A comma has to stand here. -/
  | comma
  /-- Nothing may follow the value. -/
  | extra
  /-- A backslash is followed by a character that makes no escape. -/
  | escape
  /-- The number of a code unit is incomplete. -/
  | codeUnit
  /-- A string has no end. -/
  | unterminated
  /-- A control character stands in a string. -/
  | control
  /-- The text begins with a byte order mark. -/
  | byteOrderMark
  /-- A whole number has too many digits. -/
  | digits (count : Nat)
  /-- Lists, or objects, are nested too deeply. -/
  | depth (isList : Bool)
  deriving DecidableEq

/-- What is wrong with a text, and what is left of it from there on. -/
structure Stop where
  /-- What is wrong. -/
  cause : Cause
  /-- The rest of the text. -/
  rest : List Char

/-- How deep lists and objects can be nested. -/
def maxDepth : Nat := 990

def Cause.reason : Cause → Text
  | .value => "Expecting value"
  | .name => "Expecting property name enclosed in double quotes"
  | .colon => "Expecting ':' delimiter"
  | .comma => "Expecting ',' delimiter"
  | .extra => "Extra data"
  | .escape => "Invalid \\escape"
  | .codeUnit => "Invalid \\uXXXX escape"
  | .unterminated => "Unterminated string starting at"
  | .control => "Invalid control character at"
  | .byteOrderMark => "Unexpected UTF-8 BOM (decode using utf-8-sig)"
  | .digits count => Reading.tooManyDigits count
  | .depth isList => (Fault.tooDeep isList).message

/-- The cause is one of form, and is reported with its place. -/
def Cause.isPlaced : Cause → Bool
  | .digits _ => false
  | .depth _ => false
  | _ => true

/-- A text is not JSON. -/
structure ReadFault where
  /-- What is wrong. -/
  cause : Cause
  line : Nat
  column : Nat
  /-- The number of characters before. -/
  position : Nat

/-- The fault of a text that reading stopped at. -/
def Stop.fault (text : List Char) (s : Stop) : ReadFault :=
  let before := text.take (text.length - s.rest.length)
  { cause := s.cause
    line := before.count '\n' + 1
    column := (before.reverse.takeWhile (· != '\n')).length + 1
    position := before.length }

def ReadFault.message (f : ReadFault) : Text :=
  if f.cause.isPlaced then
    f.cause.reason ++ ": line " ++ toString f.line ++ " column " ++ toString f.column ++
      " (char " ++ toString f.position ++ ")"
  else f.cause.reason

end NocRouting.Json
