import NocRouting.Arithmetic
import NocRouting.Constraint.Meaning

/-!
# Limits of an engine

An engine computes with whole numbers of 64 bits.  What is handed to it meets two kinds of limits.

* Some of it is refused at once: a coefficient that is no word, and bounds or constants that are
  no whole numbers.  `Limits.linear`, `Limits.maximum` and `Objective.make` make expressions whole,
  and `Posting.admission` is the check of a posting whose expressions are.
* Some of it makes the whole problem invalid, which shows when the problem is to be solved: an
  expression that may leave half the range of a word, an empty domain, a condition that is not
  boolean, a node with two loops, or two suggestions for one variable.  `areValid` is the check.
-/

namespace NocRouting

-- Empty sums are the `0` of core, whatever a reader of this module has loaded besides.
attribute [local instance (2000)] Zero.ofOfNat0

/-- The whole number of a value, which has to fit a word. -/
def Value.asWord (v : Value) : Except Fault Int := do
  let n ← v.asIndex
  if IsWord n then return n else throw .mismatch

namespace Limits

variable {ν : Type}

/-! ### Making expressions whole -/

/-- An expression as it is handed to an engine, with coefficients of any sort. -/
abbrev RawExpr (ν : Type) := LinearExpr Value (Literal ν)

/-- The terms with whole coefficients, whose fractions are cut off. -/
def wholeTerms (e : RawExpr ν) : Except Fault (List (Int × Literal ν)) := do
  let terms ← e.terms.mapM fun (c, l) => return (← c.truncated, l)
  unless terms.all fun (c, _) => IsWord c do throw .beyondWord
  return terms

/-- The expression over variables of some terms over literals: a negated literal is what its
variable lacks to one. -/
def overVars (terms : List (Int × Literal ν)) (constant : Int) : LinearExpr Int ν where
  terms := terms.map fun (c, l) => (if l.isNegated then -c else c, l.var)
  constant := constant + ((terms.filter (·.2.isNegated)).map (·.1)).sum

/-- The constant of an expression.  A double that is zero is none where there are terms. -/
def constantOf (terms : List (Int × Literal ν)) (constant : Value) : Value :=
  match constant with
  | .number (.float x) => if !terms.isEmpty && x == 0.0 then .int 0 else constant
  | _ => constant

/-- An expression with bounds between which it is to lie. -/
structure Bounded (ν : Type) where
  expr : LinearExpr Int ν
  lower : Option Value
  upper : Option Value

/-- A bound after a constant has been taken away on either side.  The ends of the range of a word
stand for no bound and stay where they are, and no bound leaves the range. -/
def moved (constant : Int) (bound : Value) : Value :=
  match bound.asIndex with
  | .ok n =>
    if n = Int64.minValue.toInt ∨ n = Int64.maxValue.toInt then bound
    else .int (max Int64.minValue.toInt (min Int64.maxValue.toInt (n - constant)))
  | .error _ => bound

/-- The expression of a linear constraint with its bounds.  Its constant has to fit a word, and goes
to the bounds if there are terms. -/
def linear (e : RawExpr ν) (lower upper : Option Value) : Except Fault (Bounded ν) := do
  let terms ← wholeTerms e
  let whole := overVars terms (← (constantOf terms e.constant).asWord)
  if terms.isEmpty then return ⟨whole, lower, upper⟩
  else
    return ⟨⟨whole.terms, 0⟩, lower.map (moved whole.constant), upper.map (moved whole.constant)⟩

def literalText (describe : ν → Text) (l : Literal ν) : Text :=
  if l.isNegated then "not(" ++ describe l.var ++ ")" else describe l.var

/-- Some terms in a message, where those that come to nothing are left out. -/
def termsText (describe : ν → Text) (terms : List (Int × Literal ν)) : Text :=
  match terms.filter (·.1 ≠ 0) with
  | [] => "IntConstant(0)"
  | [(c, l)] =>
    if c = 1 then literalText describe l
    else
      "IntAffine(expr=" ++ literalText describe l ++ ", coeff=" ++ toString c ++ ", offset=0)"
  | terms =>
    "IntWeightedSum([" ++ Text.joined ", " (terms.map (literalText describe ·.2)) ++ "], [" ++
      ", ".intercalate (terms.map (toString ·.1)) ++ "], 0)"

/-- The sum of some terms and a number that makes it one of doubles, in a message. -/
def doubleSumText (describe : ν → Text) (terms : List (Int × Literal ν)) (offset : Number) :
    Text :=
  "FloatAffine(expr=" ++ termsText describe terms ++ ", coeff=1, offset=" ++
    briefText offset.toFloat ++ ")"

/-- The terms of an expression that is compared with others, once its constant can be added to
them. -/
def comparedTerms (e : RawExpr ν) : Except Fault (List (Int × Literal ν)) := do
  let terms ← wholeTerms e
  unless terms.isEmpty do
    let n ← e.constant.asNumber
    if n.toFloat?.isNone then throw .mismatch
  return terms

/-- An expression that is compared with others, which has to be whole. -/
def compared (describe : ν → Text) (terms : List (Int × Literal ν)) (constant : Value) :
    Except Fault (LinearExpr Int ν) := do
  match (constantOf terms constant).asIndex with
  | .ok n =>
    if IsWord n then return overVars terms n
    else if terms.isEmpty then throw .beyondWord
    else throw (.refused (.notWholeExpr (doubleSumText describe terms (.int n))))
  | .error fault =>
    if terms.isEmpty then throw fault
    else throw (.refused (.notWholeExpr (doubleSumText describe terms (← constant.asNumber))))

/-- The terms and constants of expressions that are compared with others. -/
def comparedParts (es : List (RawExpr ν)) :
    Except Fault (List (List (Int × Literal ν) × Value)) :=
  es.mapM fun e => return (← comparedTerms e, e.constant)

/-- The expressions in front of the first that is not whole, and why that one is refused. -/
def comparedFront (describe : ν → Text) :
    List (List (Int × Literal ν) × Value) → List (LinearExpr Int ν) × Except Fault Unit
  | [] => ([], .ok ())
  | (terms, constant) :: rest =>
    match compared describe terms constant with
    | .error fault => ([], .error fault)
    | .ok e =>
      let (more, outcome) := comparedFront describe rest
      (e :: more, outcome)

/-- The expressions of which a literal is to be the greatest. -/
def maximum (describe : ν → Text) (es : List (RawExpr ν)) :
    Except Fault (List (LinearExpr Int ν)) := do
  let (front, outcome) := comparedFront describe (← comparedParts es)
  outcome
  return front

/-- The bounds of a constraint, where they are given, fit a word. -/
def requireBounds (lower upper : Option Value) : Except Fault Unit := do
  for v in lower.toList ++ upper.toList do
    discard <| v.asWord

def rawOf (e : LinearExpr Int ν) : RawExpr ν :=
  ⟨e.terms.map fun (c, v) => (.int c, .of v), .int e.constant⟩

end Limits

/-- Whether an engine takes a posting. -/
def Posting.admission {ν : Type} (describe : ν → Text) : Posting ν → Except Fault Unit
  | .newInt lower upper _ => Limits.requireBounds (some lower) (some upper)
  | .constrain (.linear e lower upper _) => do
    Limits.requireBounds lower upper
    discard <| Limits.linear (Limits.rawOf e) lower upper
  | .constrain (.maximum _ es) => discard <| Limits.maximum describe (es.map Limits.rawOf)
  | .minimize e => discard <| Limits.wholeTerms (Limits.rawOf e)
  | _ => return

/-! ### Validity -/

namespace Limits

variable {ν : Type} [DecidableEq ν]

/-- The greatest magnitude that the engine computes with: half the range of a word. -/
def greatest : Int := Int64.maxValue.toInt / 2

/-- The terms with those of each variable added up. -/
def merged (terms : List (Int × ν)) : List (Int × ν) :=
  terms.foldr (fun (c, v) rest =>
    match rest.find? (·.2 = v) with
    | some (d, _) => (c + d, v) :: rest.filter (·.2 ≠ v)
    | none => (c, v) :: rest) []

/-- How far some terms can get above zero, with variables between bounds. -/
def ascent (range : ν → Int × Int) (terms : List (Int × ν)) : Int :=
  (terms.map fun (c, v) => max 0 (max (c * (range v).1) (c * (range v).2))).sum

/-- The terms and an offset stay within half the range of a word, also if only those that add to
one side are taken. -/
def isTame (range : ν → Int × Int) (terms : List (Int × ν)) (offset : Int) : Bool :=
  let opposite := terms.map fun (c, v) => (-c, v)
  ascent range terms + offset.natAbs ≤ greatest && ascent range opposite + offset.natAbs ≤ greatest

/-- An expression that stays within half the range of a word.  Terms of one variable count
together. -/
def fits (range : ν → Int × Int) (terms : List (Int × ν)) (offset : Int) : Bool :=
  isTame range terms offset || isTame range (merged terms) offset

def isBoolean (range : ν → Int × Int) (v : ν) : Bool :=
  let (lower, upper) := range v
  lower ≤ upper && 0 ≤ lower && upper ≤ 1

end Limits

variable {ν : Type} [DecidableEq ν]

/-- The constraint is one that an engine can work on. -/
def Constraint.isValid (range : ν → Int × Int) : Constraint ν → Bool
  | .linear e _ _ enforceIf =>
    Limits.fits range e.terms 0 && enforceIf.all fun l => Limits.isBoolean range l.var
  | .maximum target es =>
    let target := Limits.overVars [(1, target)] 0
    (target :: es).all fun e => Limits.fits range e.terms e.constant
  | .circuit arcs => ((arcs.filter fun a => a.source = a.sink).map (·.source)).Nodup
  | _ => true

/-- What is posted once and for all is something that an engine can work on. -/
def Posting.isValid (range : ν → Int × Int) : Posting ν → Bool
  | .newInt lower upper _ =>
    match lower.asIndex, upper.asIndex with
    | .ok m, .ok n => m ≤ n && -Limits.greatest ≤ m && n ≤ Limits.greatest
    | _, _ => false
  | .constrain c => c.isValid range
  | _ => true

/-- The suggestions that were not forgotten. -/
def standingHints (postings : List (Posting ν)) : List (ν × Int) :=
  postings.foldl (fun hints p =>
    match p with
    | .hint v value => (v, value) :: hints
    | .clearHints => []
    | _ => hints) []

/-- Everything posted is something that an engine can work on.  An objective that was replaced, and
suggestions that were forgotten, are of no account. -/
def areValid (range : ν → Int × Int) (postings : List (Posting ν)) : Bool :=
  let hints := standingHints postings
  postings.all (·.isValid range) && (hints.map (·.1)).Nodup &&
    hints.all (fun (_, n) => Int64.minValue.toInt < n && n < Int64.maxValue.toInt) &&
    (lastObjective? postings).all fun e => Limits.fits range e.terms 0

end NocRouting
