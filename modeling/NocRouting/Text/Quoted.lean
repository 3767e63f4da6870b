import NocRouting.Text.Basic
import NocRouting.Text.Printable

/-!
# Quoted text

Text from a description is shown in messages between quotes: single quotes, unless the text holds
single but no double quotes.  The quote in use, the backslash and everything that is not printable
are escaped, so the quoted form holds no quote of its own kind that is not escaped.
-/

namespace NocRouting.Text

/-- The quote to put around a text. -/
def quoteFor (text : Text) : Char :=
  if text.contains '\'' && !text.contains '"' then '"' else '\''

/-- A code point in hexadecimal, with a least number of digits. -/
def hexadecimal (width n : Nat) : List Char :=
  let digits := Nat.toDigits 16 n
  List.replicate (width - digits.length) '0' ++ digits

/-- The escape of a code point by its number, in the shortest of the three widths. -/
def numberEscape (c : CodePoint) : List Char :=
  let n := c.number
  if n < 0x100 then '\\' :: 'x' :: hexadecimal 2 n
  else if n < 0x10000 then '\\' :: 'u' :: hexadecimal 4 n
  else '\\' :: 'U' :: hexadecimal 8 n

/-- A code point as it stands between the given quotes. -/
def escaped (quote : Char) (c : CodePoint) : List Char :=
  match c with
  | .half _ => numberEscape c
  | .char c =>
    if c == quote || c == '\\' then ['\\', c]
    else if c == '\n' then ['\\', 'n']
    else if c == '\r' then ['\\', 'r']
    else if c == '\t' then ['\\', 't']
    else if isPrintable c then [c]
    else numberEscape c

def quoted (text : Text) : Text :=
  let q := quoteFor text
  (q :: text.flatMap (escaped q) ++ [q]).map .char

/-- A text as a string, in which the numbers of halves stand for them. -/
def shown (text : Text) : String :=
  String.ofList (text.flatMap fun c =>
    match c with
    | .char c => [c]
    | .half _ => numberEscape c)

end NocRouting.Text
