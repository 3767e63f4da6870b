import NocRouting.Fault

/-!
# Arithmetic on values

Figures of a description are computed with before anybody has looked at their sort.  Truth values
count as the numbers `0` and `1`; texts and lists can be joined to their own kind and repeated a
whole number of times; nothing else can be computed with.

* `Value.plus`, `Value.minus`, `Value.times` and `Value.opposite` are the operations on values, and
  the lemmas say that on whole numbers they are those of `Int`.
* `Value.truncated` is the whole number that a value stands for, without its fraction.
-/

namespace NocRouting

/-! ### Numbers -/

/-- The double nearest to a number. -/
def Number.asFloat (n : Number) : Except Fault Float :=
  match n.toFloat? with
  | some x => .ok x
  | none => .error .tooLarge

/-- The greatest whole number which is at most a number. -/
def Number.floor (n : Number) : Except Fault Int :=
  match n with
  | .int n => .ok n
  | .float x =>
    match Exact.ofFloat x with
    | .nan => .error (.refused .nanWhole)
    | .infinite _ => .error .tooLarge
    | .finite d => .ok (Exact.floorDyadic d)

/-- A number without its fraction. -/
def Number.truncated (n : Number) : Except Fault Int :=
  match n with
  | .int n => .ok n
  | .float x => if x < 0.0 then return -(← Number.floor (.float (-x))) else Number.floor (.float x)

/-- The result of arithmetic on two numbers that can meet. -/
def Number.meeting (op : Number → Number → Number) (a b : Number) : Except Fault Number :=
  if a.clash b then .error .tooLarge else .ok (op a b)

namespace Value

/-- The number a value stands for in arithmetic. -/
def asNumber (v : Value) : Except Fault Number :=
  match v.number? with
  | some n => .ok n
  | none => .error .mismatch

def asFloat (v : Value) : Except Fault Float := do
  (← v.asNumber).asFloat

/-- The whole number that a value stands for, without its fraction.  A text is read. -/
def truncated : Value → Except Fault Int
  | .bool b => .ok b.toInt
  | .number n => n.truncated
  | .text s =>
    match wholeNumber s with
    | .ok n => .ok n
    | .error .form => .error (.refused (.notWhole s))
    | .error (.digits count) => .error (.refused (.tooManyDigits count))
  | _ => .error .mismatch

/-! ### Operations -/

/-- An operation on the numbers that two values stand for. -/
def combined (op : Number → Number → Number) (v w : Value) : Except Fault Value := do
  return .number (← Number.meeting op (← v.asNumber) (← w.asNumber))

/-- The sum of two values, or two texts or lists joined. -/
def plus : Value → Value → Except Fault Value
  | .text s, .text t => .ok (.text (s ++ t))
  | .list xs, .list ys => .ok (.list (xs ++ ys))
  | v, w => combined (· + ·) v w

def minus (v w : Value) : Except Fault Value :=
  combined (· - ·) v w

/-- A number of items that no text or list can have. -/
def unattainable : Nat := 0x1000000000

/-- Items a number of times over; nothing of them where the number is negative.  A fault is given
for a result whose number of items is no word. -/
def copies {α : Type} (fault : Fault) (count : Int) (items : List α) :
    Except Fault (List α) :=
  if items.isEmpty then .ok []
  else if ¬ IsWord (items.length * count.toNat) then .error fault
  else if unattainable ≤ items.length * count.toNat then .error .outOfMemory
  else .ok (List.replicate count.toNat items).flatten

/-- A text or list a number of times over.  The number has 64 bits. -/
def repeated (count : Int) (v : Value) : Except Fault Value :=
  if ¬ IsWord count then .error .tooLarge
  else
    match v with
    | .text s => (copies .tooLarge count s).map .text
    | .list items => (copies .outOfMemory count items).map .list
    | _ => .error .mismatch

/-- The value is a text or a list, which can be repeated. -/
def isSequence : Value → Bool
  | .text _ => true
  | .list _ => true
  | _ => false

/-- The product of two values, or a text or list repeated. -/
def times (v w : Value) : Except Fault Value := do
  if v.isSequence then repeated (← w.asIndex) v
  else if w.isSequence then repeated (← v.asIndex) w
  else combined (· * ·) v w

def opposite (v : Value) : Except Fault Value := do
  return .number (-(← v.asNumber))

@[simp] theorem asNumber_int (n : Int) : (int n).asNumber = .ok (.int n) := rfl

@[simp] theorem truncated_int (n : Int) : (int n).truncated = .ok n := rfl

@[simp] theorem plus_int (m n : Int) : (int m).plus (int n) = .ok (int (m + n)) := rfl

@[simp] theorem minus_int (m n : Int) : (int m).minus (int n) = .ok (int (m - n)) := rfl

@[simp] theorem times_int (m n : Int) : (int m).times (int n) = .ok (int (m * n)) := rfl

@[simp] theorem opposite_int (n : Int) : (int n).opposite = .ok (int (-n)) := rfl

end Value

@[simp] theorem Number.floor_int (n : Int) : (Number.int n).floor = .ok n := rfl

@[simp] theorem Number.truncated_int (n : Int) : (Number.int n).truncated = .ok n := rfl

@[simp] theorem Number.meeting_int (op : Number → Number → Number) (m n : Int) :
    Number.meeting op (.int m) (.int n) = .ok (op (.int m) (.int n)) := rfl

end NocRouting
