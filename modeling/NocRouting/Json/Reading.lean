import NocRouting.Json.Fault

/-!
# Reading JSON

A text is read into a value.  Besides what the standard admits, `NaN`, `Infinity` and `-Infinity`
are numbers.  Numbers without a point and an exponent are whole.  Of several fields with one name
the last counts, in the place of the first.

Every function takes the text from some place on, and returns what it has read together with the
rest; reading stops at the first place where the text cannot be continued to a correct one.
-/

namespace NocRouting.Json

/-- The text without the white space in front. -/
def skipBlanks (text : List Char) : List Char :=
  text.dropWhile fun c => c == ' ' || c == '\t' || c == '\n' || c == '\r'

/-- What follows a word, if the text begins with it. -/
def after? (word text : List Char) : Option (List Char) :=
  if word.isPrefixOf text then some (text.drop word.length) else none

/-! ### Strings -/

/-- A piece of a string: a character, or a code unit of UTF-16 given by number. -/
inductive Piece where
  | char (c : Char)
  /-- A code unit. -/
  | unit (n : Nat)

/-- The character that a letter stands for after a backslash. -/
def escape? : Char → Option Char
  | '"' => some '"'
  | '\\' => some '\\'
  | '/' => some '/'
  | 'b' => some '\x08'
  | 'f' => some '\x0c'
  | 'n' => some '\n'
  | 'r' => some '\r'
  | 't' => some '\t'
  | _ => none

/-- The value of a hexadecimal digit. -/
def hexDigit? (c : Char) : Option Nat :=
  if c.isDigit then some (c.toNat - '0'.toNat)
  else if 'a' ≤ c ∧ c ≤ 'f' then some (c.toNat - 'a'.toNat + 10)
  else if 'A' ≤ c ∧ c ≤ 'F' then some (c.toNat - 'A'.toNat + 10)
  else none

/-- The value of hexadecimal digits. -/
def hexadecimal? (digits : List Char) : Option Nat :=
  digits.foldlM (fun n c => (hexDigit? c).map (16 * n + ·)) 0

/-- A piece in front of others. -/
def before (p : Piece) :
    Except Stop (List Piece × List Char) → Except Stop (List Piece × List Char)
  | .ok (ps, rest) => .ok (p :: ps, rest)
  | .error s => .error s

/-- The pieces of a string up to its closing quote, given the text from its opening quote on. -/
def pieces (opening : List Char) : List Char → Except Stop (List Piece × List Char)
  | [] => .error ⟨.unterminated, opening⟩
  | '"' :: rest => .ok ([], rest)
  | '\\' :: 'u' :: a :: b :: c :: d :: e :: rest =>
    match hexadecimal? [a, b, c, d] with
    | some n => before (.unit n) (pieces opening (e :: rest))
    | none => .error ⟨.codeUnit, 'u' :: a :: b :: c :: d :: e :: rest⟩
  | '\\' :: 'u' :: rest => .error ⟨.codeUnit, 'u' :: rest⟩
  | '\\' :: c :: rest =>
    match escape? c with
    | some c => before (.char c) (pieces opening rest)
    | none => .error ⟨.escape, '\\' :: c :: rest⟩
  | c :: rest =>
    if c == '\\' then .error ⟨.unterminated, opening⟩
    else if c.toNat ≤ 0x1F then .error ⟨.control, c :: rest⟩
    else before (.char c) (pieces opening rest)

/-- The text of a string, in which two halves make one character. -/
def joinPieces : List Piece → Text
  | [] => []
  | .char c :: rest => .char c :: joinPieces rest
  | .unit m :: .unit n :: rest =>
    if CodePoint.isHigh m && CodePoint.isLow n then .ofPair m n :: joinPieces rest
    else .ofUnit m :: joinPieces (.unit n :: rest)
  | .unit m :: rest => .ofUnit m :: joinPieces rest

/-- A string, after its opening quote. -/
def string (text : List Char) : Except Stop (Text × List Char) := do
  let (ps, rest) ← pieces ('"' :: text) text
  return (joinPieces ps, rest)

/-! ### Numbers -/

/-- The fraction of a number, if one follows. -/
def fraction? : List Char → Option (List Char × List Char)
  | '.' :: c :: rest => if c.isDigit then some (Reading.splitDigits (c :: rest)) else none
  | _ => none

/-- The exponent of a number, if one follows. -/
def exponent? : List Char → Option (Int × List Char)
  | [] => none
  | c :: rest =>
    if c == 'e' || c == 'E' then
      let (negative, digits) := Reading.splitSign rest
      let (digits, rest) := Reading.splitDigits digits
      if digits.isEmpty then none
      else
        let n : Int := Reading.ofDigits digits
        some (if negative then -n else n, rest)
    else none

/-- The digits of the whole part of a number, which are no others after a zero. -/
def wholePart? : List Char → Option (List Char × List Char)
  | '0' :: rest => some (['0'], rest)
  | text =>
    let (digits, rest) := Reading.splitDigits text
    if digits.isEmpty then none else some (digits, rest)

def number (text : List Char) : Except Stop (Number × List Char) :=
  let (negative, unsigned) :=
    match text with
    | '-' :: rest => (true, rest)
    | _ => (false, text)
  match wholePart? unsigned with
  | none => .error ⟨.value, text⟩
  | some (whole, rest) =>
    match fraction? rest, exponent? ((fraction? rest).elim rest (·.2)) with
    | none, none =>
      if Reading.maxDigits < whole.length then .error ⟨.digits whole.length, text⟩
      else
        let n : Int := Reading.ofDigits whole
        .ok (.int (if negative then -n else n), rest)
    | fraction, exponent =>
      let places := fraction.elim [] (·.1)
      let rest := fraction.elim rest (·.2)
      let power := exponent.elim 0 (·.1)
      .ok (.float (doubleOfDecimal negative (Reading.ofDigits (whole ++ places))
        (power - places.length)), exponent.elim rest (·.2))

/-- The values that are written as words. -/
def words : List (String × Value) := [
    ("null", .null),
    ("true", .bool true),
    ("false", .bool false),
    ("NaN", .number (.float (0.0 / 0.0))),
    ("Infinity", .number (.float (1.0 / 0.0))),
    ("-Infinity", .number (.float (-(1.0 / 0.0))))]

/-- A value without parts, other than a string. -/
def atom (text : List Char) : Except Stop (Value × List Char) :=
  match words.findSome? fun (w, v) => (after? w.toList text).map (v, ·) with
  | some read => .ok read
  | none => (number text).map fun (n, rest) => (.number n, rest)

/-! ### Values -/

/-- The fields with another one, in the place of an earlier one of the name. -/
def putField (fields : List (Text × Value)) (name : Text) (v : Value) :
    List (Text × Value) :=
  if fields.any (·.1 == name) then
    fields.map fun f => if f.1 == name then (name, v) else f
  else fields ++ [(name, v)]

mutual

/-- A value.  The first number bounds the steps of reading, of which there are at most two for a
character and one at the end; the second is how deep lists and objects can still be nested. -/
def value : Nat → Nat → List Char → Except Stop (Value × List Char)
  | 0, _, text => .error ⟨.value, text⟩
  | more + 1, room, text =>
    match text with
    | '"' :: rest => (string rest).map fun (s, rest) => (.text s, rest)
    | '{' :: rest =>
      match room with
      | 0 => .error ⟨.depth false, text⟩
      | room + 1 =>
        match skipBlanks rest with
        | '}' :: rest => .ok (.object [], rest)
        | rest => (fields more room [] rest).map fun (fs, rest) => (.object fs, rest)
    | '[' :: rest =>
      match room with
      | 0 => .error ⟨.depth true, text⟩
      | room + 1 =>
        match skipBlanks rest with
        | ']' :: rest => .ok (.list [], rest)
        | rest => (items more room rest).map fun (vs, rest) => (.list vs, rest)
    | text => atom text

/-- The items of a list, of which there is at least one. -/
def items : Nat → Nat → List Char → Except Stop (List Value × List Char)
  | 0, _, text => .error ⟨.value, text⟩
  | more + 1, room, text => do
    let (v, rest) ← value more room text
    match skipBlanks rest with
    | ']' :: rest => return ([v], rest)
    | ',' :: rest =>
      let (vs, rest) ← items more room (skipBlanks rest)
      return (v :: vs, rest)
    | rest => .error ⟨.comma, rest⟩

/-- The fields of an object, of which there is at least one more, after some. -/
def fields : Nat → Nat → List (Text × Value) → List Char →
    Except Stop (List (Text × Value) × List Char)
  | 0, _, _, text => .error ⟨.value, text⟩
  | more + 1, room, done, text =>
    match text with
    | '"' :: rest => do
      let (name, rest) ← string rest
      match skipBlanks rest with
      | ':' :: rest =>
        let (v, rest) ← value more room (skipBlanks rest)
        let done := putField done name v
        match skipBlanks rest with
        | '}' :: rest => return (done, rest)
        | ',' :: rest => fields more room done (skipBlanks rest)
        | rest => .error ⟨.comma, rest⟩
      | rest => .error ⟨.colon, rest⟩
    | text => .error ⟨.name, text⟩

end

/-- The value that a text stands for, with nothing but white space around it. -/
def document (text : List Char) : Except Stop Value := do
  if text.head? == some '\uFEFF' then throw ⟨.byteOrderMark, text⟩
  let (v, rest) ← value (2 * text.length + 1) maxDepth (skipBlanks text)
  match skipBlanks rest with
  | [] => return v
  | rest => throw ⟨.extra, rest⟩

def read (text : List Char) : Except ReadFault Value :=
  (document text).mapError (·.fault text)

end NocRouting.Json
