import NocRouting.Number.Layout
import NocRouting.Text.Quoted

/-!
# Values of a description

Devices, networks and traffic are described by users, whose identifiers, names and figures may be
anything that can be written down: nothing, a truth value, a number, a text, a list or an object.

* `Value.same` identifies things: `1`, `1.0` and `true` are the same identifier, `1` and `"1"` are
  not.  Lists and objects cannot identify anything (`Value.isKey`).
* `Value.number?` is the number a value can be computed with.
* `Value.plain` and `Value.quoted` are the two forms in messages; they differ on text only.
-/

namespace NocRouting

/-- A value of a description. -/
inductive Value where
  | null
  /-- A truth value, which counts as `0` or `1`. -/
  | bool (b : Bool)
  | number (n : Number)
  | text (s : Text)
  | list (items : List Value)
  /-- An object: named fields in the order of their first occurrence. -/
  | object (fields : List (Text × Value))

namespace Value

instance : Inhabited Value := ⟨.null⟩

/-- A whole number. -/
abbrev int (n : Int) : Value := .number (.int n)

/-- The number a value stands for in arithmetic. -/
def number? : Value → Option Number
  | .bool b => some (.int b.toInt)
  | .number n => some n
  | _ => none

/-- The value can identify something. -/
def isKey : Value → Bool
  | .list _ => false
  | .object _ => false
  | _ => true

mutual

/-- Two values identify the same thing: numbers by value, truth values as numbers, lists item by
item, and objects field by field in any order. -/
def same : Value → Value → Bool
  | .null, .null => true
  | .text s, .text t => s == t
  | .list xs, .list ys => sameItems xs ys
  | .object xs, .object ys => xs.length == ys.length && sameFields xs ys
  | .bool a, b =>
    match b.number? with
    | some n => Number.same (.int a.toInt) n
    | none => false
  | .number m, b =>
    match b.number? with
    | some n => m.same n
    | none => false
  | _, _ => false

/-- `same` on lists, item by item. -/
def sameItems : List Value → List Value → Bool
  | [], [] => true
  | x :: xs, y :: ys => same x y && sameItems xs ys
  | _, _ => false

/-- Every field of the first object is the same in the second. -/
def sameFields : List (Text × Value) → List (Text × Value) → Bool
  | [], _ => true
  | (k, v) :: rest, ys =>
    (match ys.find? (·.1 == k) with
      | some (_, w) => same v w
      | none => false) && sameFields rest ys

end

mutual

/-- Two values are equal: as `same`, but a `nan` equals nothing. -/
def eqv : Value → Value → Bool
  | .list xs, .list ys => eqvItems xs ys
  | .object xs, .object ys => xs.length == ys.length && eqvFields xs ys
  | .number m, b =>
    match b.number? with
    | some n => m.eqv n
    | none => false
  | a, b => a.same b

/-- `eqv` on lists, item by item. -/
def eqvItems : List Value → List Value → Bool
  | [], [] => true
  | x :: xs, y :: ys => eqv x y && eqvItems xs ys
  | _, _ => false

/-- Every field of the first object is equal in the second. -/
def eqvFields : List (Text × Value) → List (Text × Value) → Bool
  | [], _ => true
  | (k, v) :: rest, ys =>
    (match ys.find? (·.1 == k) with
      | some (_, w) => eqv v w
      | none => false) && eqvFields rest ys

end

/-- The order of values of one sort: numbers by value and texts by the numbers of their
code points. -/
def precedes : Value → Value → Bool
  | .text s, .text t => s.numbers < t.numbers
  | v, w =>
    match v.number?, w.number? with
    | some m, some n => m.lt n
    | _, _ => false

def isText : Value → Bool
  | .text _ => true
  | _ => false

/-- The values can be put in order: there are no two of them, or all are numbers, or all are
texts. -/
def areComparable (vs : List Value) : Bool :=
  vs.length ≤ 1 || vs.all (·.number?.isSome) || vs.all isText

/-- The values of a list, each once. -/
def distinct (vs : List Value) : List Value :=
  vs.foldl (fun seen v => if seen.any (·.same v) then seen else seen ++ [v]) []

/-- Values between commas. -/
def commaSeparated (items : List Text) : Text :=
  Text.joined ", " items

mutual

/-- A value in a message, with texts between quotes. -/
def quoted : Value → Text
  | .null => "None"
  | .bool b => if b then "True" else "False"
  | .number n => n.text
  | .text s => s.quoted
  | .list items => "[" ++ commaSeparated (quotedItems items) ++ "]"
  | .object fields => "\x7b" ++ commaSeparated (quotedFields fields) ++ "\x7d"

/-- The items of a list, each `quoted`. -/
def quotedItems : List Value → List Text
  | [] => []
  | v :: rest => quoted v :: quotedItems rest

/-- The fields of an object, with names and values between quotes. -/
def quotedFields : List (Text × Value) → List Text
  | [] => []
  | (k, v) :: rest => (k.quoted ++ ": " ++ quoted v) :: quotedFields rest

end

/-- A value in a message, where a text stands as it is. -/
def plain : Value → Text
  | .text s => s
  | v => v.quoted

/-- A fixed number of values in a message, between round brackets. -/
def tupleText : List Value → Text
  | [v] => "(" ++ v.quoted ++ ",)"
  | items => "(" ++ commaSeparated (quotedItems items) ++ ")"

/-- The members of a value that has some: the items of a list, the code points of a text or the
field names of an object. -/
def members? : Value → Option (List Value)
  | .list items => some items
  | .text s => some (s.map (.text [·]))
  | .object fields => some (fields.map (.text ·.1))
  | _ => none

/-- A value counts as true: not nothing, not zero and not empty. -/
def isTrue : Value → Bool
  | .null => false
  | .bool b => b
  | .number n => !n.isZero
  | .text s => !s.isEmpty
  | .list items => !items.isEmpty
  | .object fields => !fields.isEmpty

@[simp] theorem number?_int (n : Int) : (int n).number? = some (.int n) := rfl

@[simp] theorem isKey_int (n : Int) : (int n).isKey = true := rfl

@[simp] theorem isKey_text (s : Text) : (text s).isKey = true := rfl

@[simp] theorem same_int_int (m n : Int) : (int m).same (int n) = (m == n) := by
  simp [same]

@[simp] theorem eqv_int_int (m n : Int) : (int m).eqv (int n) = (m == n) := by
  simp [eqv, Number.eqv, Number.exact, Exact.ofInt]

@[simp] theorem precedes_int_int (m n : Int) : (int m).precedes (int n) = decide (m < n) := rfl

@[simp] theorem same_text_text (s t : Text) : (text s).same (text t) = (s == t) := by
  simp [same]

end Value

end NocRouting
