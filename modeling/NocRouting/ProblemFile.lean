import NocRouting.Json.Reading
import NocRouting.Text.Utf8

/-!
# Problem files

A problem file is a text file in UTF-8 that holds a JSON document.  Reading one fails if no file can
have the name, if there is no such file, if its octets are no text, or if the text is no JSON.
-/

namespace NocRouting

/-- What is found under the name of a file. -/
inductive FileContent where
  /-- A file with the given octets. -/
  | octets (bytes : List Nat)
  | missing
  | directory
  /-- Nothing, because a part of the name that should be a directory is none. -/
  | underFile
  /-- Nothing, because the name is too long. -/
  | nameTooLong
  /-- Something that may not be read. -/
  | denied
  /-- Nothing, because the name holds a null character. -/
  | nullInName

/-- A part of a name that has no octets: halves of characters. -/
structure BadName where
  /-- The position of the first half. -/
  first : Nat
  /-- The halves. -/
  halves : List CodePoint

namespace BadName

/-- The code point is one of the halves by which names show octets that are no text. -/
def isOctet (c : CodePoint) : Bool :=
  c.isHalf && 0xDC80 ≤ c.number && c.number ≤ 0xDCFF

/-- The first half in a name that shows no octet, with the halves that follow it. -/
def find? (position : Nat) : Text → Option BadName
  | [] => none
  | c :: rest =>
    if c.isHalf && !isOctet c then some ⟨position, (c :: rest).takeWhile (·.isHalf)⟩
    else find? (position + 1) rest

/-- The wording: a single half is shown, several are given by position. -/
def message (b : BadName) : String :=
  "'utf-8' codec can't encode " ++
    (match b.halves with
      | [c] =>
        "character '" ++ String.ofList (Text.numberEscape c) ++ "' in position " ++
          toString b.first
      | halves =>
        "characters in position " ++ toString b.first ++ "-" ++
          toString (b.first + halves.length - 1)) ++
    ": surrogates not allowed"

end BadName

/-- Why a problem file cannot be read. -/
inductive FileFault where
  /-- No file can have the name. -/
  | badName (part : BadName)
  /-- There is no file of the name. -/
  | unavailable (name : Text) (number : Nat) (reason : String)
  /-- The name holds a null character. -/
  | nullInName
  /-- The octets are no text. -/
  | encoding (cause : Text.Utf8Fault)
  /-- The text is no JSON. -/
  | format (cause : Json.ReadFault)

def FileFault.message : FileFault → Text
  | .badName part => part.message
  | .unavailable name number reason =>
    "[Errno " ++ toString number ++ "] " ++ reason ++ ": " ++ name.quoted
  | .nullInName => "embedded null byte"
  | .encoding cause => Text.Utf8.message cause
  | .format cause => cause.message

/-- The value that a file holds. -/
def FileContent.read (c : FileContent) (name : Text) : Except FileFault Value :=
  match c with
  | .missing => .error (.unavailable name 2 "No such file or directory")
  | .directory => .error (.unavailable name 21 "Is a directory")
  | .underFile => .error (.unavailable name 20 "Not a directory")
  | .nameTooLong => .error (.unavailable name 36 "File name too long")
  | .denied => .error (.unavailable name 13 "Permission denied")
  | .nullInName => .error .nullInName
  | .octets bytes =>
    match Text.Utf8.decode bytes with
    | .error cause => .error (.encoding cause)
    | .ok text => (Json.read (Text.unifyLines text)).mapError .format

/-- The value in a problem file. -/
def FileContent.value (c : FileContent) (name : Text) : Except FileFault Value :=
  match BadName.find? 0 name with
  | some part => .error (.badName part)
  | none => c.read name

end NocRouting
