import NocRouting.Constraint.Exhaustive
import NocRouting.Constraint.Parameters

/-!
# Sessions with the exhaustive engine

In a session a problem is posted step by step, solved, and read from, as often as wanted.  Variables
go by their names, and a name goes to the variable that was given it last.  A value can be read as
soon as something was solved; it is given if all best solutions agree on it.

* `Session.literal` is the literal that a name with tildes in front stands for.
* `Session.follow` is what a request does.  One that is refused can leave something behind.
* `Session.solve`, `Session.value` and `Session.truth` solve the problem and read solutions.
-/

namespace NocRouting

/-- An expression over names. -/
abbrev NamedExpr := LinearExpr Value Text

/-- Something that is asked of a session, other than to solve or to read. -/
inductive Request where
  | newBool (name : Text)
  | newInt (lower upper : Value) (name : Text)
  | boolOr (literals : List Text)
  | atMostOne (literals : List Text)
  | exactlyOne (literals : List Text)
  /-- An expression lies between two bounds, where a literal is true if one is given. -/
  | linear (expr : NamedExpr) (lower upper : Option Value) (enforceIf : Option Text)
  /-- A literal is the greatest of some expressions. -/
  | maximum (target : Text) (exprs : List NamedExpr)
  /-- Arcs, each with its ends and its literal, form a circuit. -/
  | circuit (arcs : List (Value × Value × Text))
  /-- Suggest a value for a literal. -/
  | hint (literal : Text) (value : Value)
  | clearHints
  | minimize (expr : NamedExpr)

/-- An objective: the value of an expression and a number besides. -/
structure Objective where
  expr : LinearExpr Int Nat
  /-- The number that is added to its value. -/
  offset : Number

/-- The objective is a whole number that engines keep to the limits of words. -/
def Objective.isWhole (o : Objective) : Bool :=
  match o.offset with
  | .int n => IsWord n
  | .float _ => false

structure Session where
  /-- What was posted, the objective apart. -/
  postings : List (Posting Nat)
  /-- The names of variables, the latest first. -/
  names : List (Text × Nat)
  /-- The objective, if one was set. -/
  objective : Option Objective
  /-- A suggestion was begun that has no value. -/
  hasLoneHint : Bool
  /-- A circuit was begun that lacks literals. -/
  hasLoneArc : Bool
  /-- The outcome of the last search, with the number of variables there were. -/
  last : Option (Exhaustive.Result × Nat)

namespace Session

def fresh : Session := ⟨[], [], none, false, false, none⟩

def numVars (s : Session) : Nat :=
  (Exhaustive.domains s.postings).length

def range (s : Session) (v : Nat) : Int × Int :=
  Exhaustive.rangeIn s.postings v

/-! ### Names -/

/-- The literal with a name: that of a variable, negated by each tilde in front.  Only boolean
variables can be negated. -/
def literal (s : Session) (text : Text) : Except Fault (Literal Nat) := do
  let isTilde (c : CodePoint) : Bool := c == '~'
  let tildes := text.takeWhile isTilde
  let name := text.drop tildes.length
  match s.names.find? (·.1 == name) with
  | none => throw (.noEntry (.text name))
  | some (_, v) =>
    if !tildes.isEmpty && !Limits.isBoolean s.range v then throw .mismatch
    return ⟨v, tildes.length % 2 == 1⟩

/-- An expression over the literals that its names stand for. -/
def exprOf (s : Session) (e : NamedExpr) : Except Fault (Limits.RawExpr Nat) := do
  return ⟨← e.terms.mapM fun (c, name) => return (c, ← s.literal name), e.constant⟩

/-- A variable in a message: by its name, or by its number if it has none. -/
def nameOf (s : Session) (v : Nat) : Text :=
  match ((s.names.find? (·.2 == v)).map (·.1)).getD [] with
  | [] => (if Limits.isBoolean s.range v then "b" else "x") ++ toString v
  | name => name

/-- A variable in a message, with its bounds. -/
def describe (s : Session) (v : Nat) : Text :=
  let (lower, upper) := s.range v
  s.nameOf v ++ "(" ++
    (if upper < lower then "" else if lower = upper then toString lower
      else toString lower ++ ".." ++ toString upper) ++ ")"

/-! ### Requests -/

def post (s : Session) (p : Posting Nat) : Session :=
  { s with postings := s.postings ++ [p] }

/-- The session with one more variable, under a name.  One whose name has halves of characters, or
whose bounds are refused, is left without name and values. -/
def declare (s : Session) (name : Text) (p : Nat → Posting Nat) (bounds : Except Fault Unit) :
    Session × Except Fault Unit :=
  let v := s.numVars
  let bounds := if name.string?.isNone then .error .mismatch else bounds
  match bounds with
  | .ok () => ({ s.post (p v) with names := (name, v) :: s.names }, .ok ())
  | .error fault => (s.post (.newInt .null .null v), .error fault)

/-- The literals in front of the first that is not boolean, and whether there is none. -/
def booleanFront (s : Session) (literals : List (Literal Nat)) : List (Literal Nat) × Bool :=
  let front := literals.takeWhile fun l => Limits.isBoolean s.range l.var
  (front, front.length == literals.length)

/-- Post a constraint on literals, as far as they are boolean. -/
def postLiterals (s : Session) (constraint : List (Literal Nat) → Constraint Nat)
    (names : List Text) : Session × Except Fault Unit :=
  match names.mapM s.literal with
  | .error fault => (s, .error fault)
  | .ok literals =>
    let (front, isWhole) := s.booleanFront literals
    (s.post (.constrain (constraint front)), if isWhole then .ok () else .error .mismatch)

/-- A literal, and the terms and constants of the expressions that it is compared with. -/
def comparison (s : Session) (name : Text) (es : List NamedExpr) :
    Except Fault (Literal Nat × List (List (Int × Literal Nat) × Value)) := do
  let target ← s.literal name
  return (target, ← Limits.comparedParts (← es.mapM s.exprOf))

/-- Post that a literal is the greatest of some expressions, as far as they are whole.  One that is
not leaves a zero in its place. -/
def postMaximum (s : Session) (target : Literal Nat)
    (parts : List (List (Int × Literal Nat) × Value)) : Session × Except Fault Unit :=
  let (front, outcome) := Limits.comparedFront s.describe parts
  let exprs := match outcome with
    | .ok () => front
    | .error _ => front ++ [.const 0]
  (s.post (.constrain (.maximum target exprs)), outcome)

/-- The arc with given ends. -/
def arc (s : Session) (a : Value × Value × Text) : Except Fault (Value × Value × Literal Nat) :=
  return (a.1, a.2.1, ← s.literal a.2.2)

/-- Post a circuit, which has at least one arc. -/
def postCircuit (s : Session) (arcs : List (Value × Value × Literal Nat)) :
    Session × Except Fault Unit :=
  let whole : Except Fault (List (Arc Nat)) := arcs.mapM fun (tail, head, l) => do
    return ⟨.number (← SearchParameters.halfWord tail),
      .number (← SearchParameters.halfWord head), l⟩
  match whole with
  | .error fault => (s, .error fault)
  | .ok [] => (s, .error (.refused .noArcs))
  | .ok arcs =>
    if arcs.all fun a => Limits.isBoolean s.range a.literal.var then
      (s.post (.constrain (.circuit arcs)), .ok ())
    else ({ s with hasLoneArc := true }, .error .mismatch)

/-- Suggest a value for a literal.  For a negated one the opposite truth value is suggested for its
variable. -/
def postHint (s : Session) (l : Literal Nat) (value : Value) : Session × Except Fault Unit :=
  let suggested : Except Fault Int :=
    if l.isNegated then .ok (if value.isTrue then 0 else 1)
    else do Value.asWord (.int (← value.truncated))
  match suggested with
  | .ok n => (s.post (.hint l.var n), .ok ())
  | .error fault => ({ s with hasLoneHint := true }, .error fault)

/-- Set the objective.  One without terms has to be whole; if it is not, there is none. -/
def setObjective (s : Session) (e : Limits.RawExpr Nat) : Session × Except Fault Unit :=
  match Limits.comparedTerms e with
  | .error fault => (s, .error fault)
  | .ok terms =>
    let constant := Limits.constantOf terms e.constant
    let offset := if terms.isEmpty then constant.asIndex.map .int else constant.asNumber
    match offset with
    | .ok n => ({ s with objective := some ⟨Limits.overVars terms 0, n⟩ }, .ok ())
    | .error fault => ({ s with objective := none }, .error fault)

/-- A session in which nothing changes if an operation is refused. -/
def unlessRefused (s : Session) : Except Fault Session → Session × Except Fault Unit
  | .ok t => (t, .ok ())
  | .error fault => (s, .error fault)

/-- What a request does. -/
def follow (s : Session) : Request → Session × Except Fault Unit
  | .newBool name => s.declare name .newBool (.ok ())
  | .newInt lower upper name =>
    s.declare name (.newInt lower upper) (Limits.requireBounds (some lower) (some upper))
  | .boolOr names => s.postLiterals .boolOr names
  | .atMostOne names => s.postLiterals .atMostOne names
  | .exactlyOne names => s.postLiterals .exactlyOne names
  | .linear e lower upper name => s.unlessRefused do
    let e ← s.exprOf e
    let l ← name.mapM s.literal
    Limits.requireBounds lower upper
    let b ← Limits.linear e lower upper
    return s.post (.constrain (.linear b.expr b.lower b.upper l))
  | .maximum name es =>
    match s.comparison name es with
    | .ok (target, parts) => s.postMaximum target parts
    | .error fault => (s, .error fault)
  | .circuit arcs =>
    match arcs.mapM s.arc with
    | .ok arcs => s.postCircuit arcs
    | .error fault => (s, .error fault)
  | .hint name value =>
    match s.literal name with
    | .ok l => s.postHint l value
    | .error fault => (s, .error fault)
  | .clearHints => ({ s.post .clearHints with hasLoneHint := false }, .ok ())
  | .minimize e =>
    match s.exprOf e with
    | .ok e => s.setObjective e
    | .error fault => (s, .error fault)

/-! ### Solving and reading -/

/-- The problem is one that an engine can work on. -/
def isValid (s : Session) : Bool :=
  !s.hasLoneHint && !s.hasLoneArc && areValid s.range s.postings &&
    s.objective.all fun o => !o.isWhole || Limits.fits s.range o.expr.terms 0

/-- Everything posted, with the objective. -/
def problem (s : Session) : List (Posting Nat) :=
  s.postings ++ s.objective.toList.map fun o => .minimize o.expr

/-- The least value of the objective in the outcome of a search. -/
def least? (s : Session) (r : Exhaustive.Result) : Option Number :=
  match s.objective, r.objective with
  | some o, some n => some (.int n + o.offset)
  | _, _ => none

/-- Solve what was posted: how the search ended, and the least value of the objective. -/
def solve (s : Session) (parameters : SearchParameters) :
    Except Fault (Session × Status × Option Number) := do
  let result :=
    match ← parameters.verdict s.isValid with
    | some status => .unsolved status
    | none => Exhaustive.solve s.problem
  return ({ s with last := some (result, s.numVars) }, result.status, s.least? result)

/-- What all best solutions agree on about a literal.  They know nothing of later variables. -/
def agreed {α : Type} [BEq α] (s : Session) (l : Literal Nat) (read : Int → α) :
    Except Fault (Option α) :=
  match s.last with
  | none => .error (.order .notSolved)
  | some (r, numVars) =>
    .ok (if l.var < numVars then
      Exhaustive.agreed? r fun a => read (l.value (Exhaustive.valueOf a))
    else none)

def value (s : Session) (l : Literal Nat) : Except Fault (Option Int) :=
  s.agreed l id

/-- The truth of a literal: its value is not zero. -/
def truth (s : Session) (l : Literal Nat) : Except Fault (Option Bool) :=
  s.agreed l (· != 0)

end Session

end NocRouting
