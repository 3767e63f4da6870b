import NocRouting.Arithmetic
import NocRouting.LinearExpr

/-!
# Formulas

A formula combines values and linear expressions with the operations that linear expressions
allow.  `Formula.eval` works a formula out, to a value or to a linear expression.

A product multiplies every coefficient of one expression, and its constant, by the other factor.
If that is an expression too, the coefficients of the product are expressions themselves; that is
why an `Outcome` can have outcomes as coefficients.  A linear expression cannot be taken away from
a number.

A term is given as a group of members.  Sums take over groups of any size; only a group of two, a
coefficient and a variable, can be negated or multiplied.
-/

namespace NocRouting

mutual

/-- What a formula comes to. -/
inductive Outcome where
  | value (v : Value)
  | expr (terms : List Term) (constant : Outcome)

/-- A term of what a formula comes to. -/
inductive Term where
  /-- A variable with its coefficient. -/
  | product (coefficient : Outcome) (var : Value)
  /-- A group that has more members than these two, or fewer. -/
  | group (members : List Value)

end

/-- A formula over variables that are values. -/
inductive Formula where
  | value (v : Value)
  /-- A linear expression, given by the members of its terms, and by its constant. -/
  | terms (terms : List (List Value)) (constant : Value)
  | sum (vars : List Value) (constant : Value)
  | weightedSum (vars : List Value) (coefficients : List Value) (constant : Value)
  | neg (a : Formula)
  /-- The sum of some formulas, counted up from zero. -/
  | total (items : List Formula)
  | add (a b : Formula)
  | sub (a b : Formula)
  | mul (a b : Formula)
  /-- The equation of two formulas, which comes to a truth value. -/
  | equal (a b : Formula)

namespace Outcome

instance : Inhabited Outcome := ⟨.value .null⟩

/-- A linear expression over values. -/
def ofExpr (e : LinearExpr Value Value) : Outcome :=
  .expr (e.terms.map fun (c, v) => .product (.value c) v) (.value e.constant)

/-- The term with some members. -/
def termOf : List Value → Term
  | [c, v] => .product (.value c) v
  | members => .group members

/-- A group that is not a coefficient with a variable cannot be computed with. -/
def refuse {α : Type} (members : List Value) : Except Fault α :=
  match pairOf members with
  | .ok _ => .error .mismatch
  | .error fault => .error fault

/-- An outcome with a value added: to its constant, if it is an expression. -/
def plusValue : Outcome → Value → Except Fault Outcome
  | .value v, w => do return .value (← v.plus w)
  | .expr terms constant, w => do return .expr terms (← constant.plusValue w)

/-- The sum of two outcomes: two expressions have the terms of both. -/
def add : Outcome → Outcome → Except Fault Outcome
  | .value v, .value w => do return .value (← v.plus w)
  | .value v, .expr terms constant => plusValue (.expr terms constant) v
  | .expr terms constant, .value v => plusValue (.expr terms constant) v
  | .expr terms constant, .expr others constant' => do
    return .expr (terms ++ others) (← constant.add constant')

mutual

def neg : Outcome → Except Fault Outcome
  | .value v => do return .value (← v.opposite)
  | .expr terms constant => do
    let constant ← constant.neg
    return .expr (← negTerms terms) constant

/-- The terms with their opposite coefficients. -/
def negTerms : List Term → Except Fault (List Term)
  | [] => return []
  | .product c v :: rest => do
    let c ← c.neg
    return .product c v :: (← negTerms rest)
  | .group members :: _ => refuse members

end

def sub : Outcome → Outcome → Except Fault Outcome
  | .value v, .value w => do return .value (← v.minus w)
  | .value _, .expr _ _ => throw .mismatch
  | x, y => do x.add (← y.neg)

mutual

/-- An outcome multiplied by a value. -/
def timesValue (w : Value) : Outcome → Except Fault Outcome
  | .value v => do return .value (← v.times w)
  | .expr terms constant => do
    let constant ← timesValue w constant
    return .expr (← termsTimesValue w terms) constant

/-- The terms with their coefficients multiplied by a value. -/
def termsTimesValue (w : Value) : List Term → Except Fault (List Term)
  | [] => return []
  | .product c v :: rest => do
    let c ← timesValue w c
    return .product c v :: (← termsTimesValue w rest)
  | .group members :: _ => refuse members

end

mutual

/-- An outcome multiplied by another one. -/
def times (y : Outcome) : Outcome → Except Fault Outcome
  | .value v =>
    match y with
    | .value w => do return .value (← v.times w)
    | y => timesValue v y
  | .expr terms constant => do
    let constant ← times y constant
    return .expr (← termsTimes y terms) constant

/-- The terms with their coefficients multiplied by an outcome. -/
def termsTimes (y : Outcome) : List Term → Except Fault (List Term)
  | [] => return []
  | .product c v :: rest => do
    let c ← times y c
    return .product c v :: (← termsTimes y rest)
  | .group members :: _ => refuse members

end

def mul (x y : Outcome) : Except Fault Outcome :=
  times y x

mutual

/-- Two outcomes are equal: values as values, and expressions term by term. -/
def eqv : Outcome → Outcome → Bool
  | .value v, .value w => v.eqv w
  | .expr terms constant, .expr others constant' => eqvTerms terms others && eqv constant constant'
  | _, _ => false

/-- Two lists of terms are equal, term by term. -/
def eqvTerms : List Term → List Term → Bool
  | [], [] => true
  | .product c v :: rest, .product d w :: others => eqv c d && v.eqv w && eqvTerms rest others
  | .group vs :: rest, .group ws :: others => Value.eqvItems vs ws && eqvTerms rest others
  | _, _ => false

end

end Outcome

namespace Formula

mutual

def eval : Formula → Except Fault Outcome
  | .value v => .ok (.value v)
  | .terms ts k => .ok (.expr (ts.map Outcome.termOf) (.value k))
  | .sum vs k => .ok (.ofExpr ⟨vs.map (.int 1, ·), k⟩)
  | .weightedSum vs cs k => .ok (.ofExpr (.weightedSum vs cs k))
  | .neg a => do (← eval a).neg
  | .total items => evalTotal (.value (.int 0)) items
  | .add a b => do
    let x ← eval a
    x.add (← eval b)
  | .sub a b => do
    let x ← eval a
    x.sub (← eval b)
  | .mul a b => do
    let x ← eval a
    x.mul (← eval b)
  | .equal a b => do
    let x ← eval a
    return .value (.bool (x.eqv (← eval b)))

/-- Work formulas out one after the other, and add each to the sum of those before. -/
def evalTotal (total : Outcome) : List Formula → Except Fault Outcome
  | [] => .ok total
  | f :: rest => do
    let x ← eval f
    evalTotal (← total.add x) rest

end

end Formula

end NocRouting
