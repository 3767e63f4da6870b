import NocRouting.Fault
import NocRouting.Index
import NocRouting.LinearExpr

/-!
# Constraints

A problem is put to a search engine as a sequence of postings: variables are created, constraints on
them are posted, an objective and hints are set, and at some point the engine is asked to solve.
A constraint here is plain data, so that what it demands can be stated (`Constraint.holds`) apart
from how an engine goes about it.
-/

namespace NocRouting

/-- A boolean variable or its negation. -/
structure Literal (ν : Type) where
  var : ν
  /-- The literal is the negation of the variable. -/
  isNegated : Bool
  deriving DecidableEq

namespace Literal

variable {ν : Type}

/-- The literal that is a variable itself. -/
def of (v : ν) : Literal ν := ⟨v, false⟩

def negated (l : Literal ν) : Literal ν := ⟨l.var, !l.isNegated⟩

@[simp] theorem negated_negated (l : Literal ν) : l.negated.negated = l := by
  simp [negated]

end Literal

/-- An arc of a circuit, which is used if its literal is true. -/
structure Arc (ν : Type) where
  /-- The node it leaves. -/
  tail : Index
  /-- The node it enters. -/
  head : Index
  /-- The literal that says whether it is used. -/
  literal : Literal ν
  deriving DecidableEq

namespace Arc

variable {ν : Type}

def source (a : Arc ν) : Int := a.tail.value

def sink (a : Arc ν) : Int := a.head.value

end Arc

/-- What is demanded of the variables. -/
inductive Constraint (ν : Type) where
  | boolOr (literals : List (Literal ν))
  | atMostOne (literals : List (Literal ν))
  | exactlyOne (literals : List (Literal ν))
  /-- An expression lies between two bounds, either of which may be missing; if a literal is given,
  this is demanded only where the literal is true. -/
  | linear (expr : LinearExpr Int ν) (lower upper : Option Value)
      (enforceIf : Option (Literal ν))
  /-- A literal, as a number, is the greatest of some expressions. -/
  | maximum (target : Literal ν) (exprs : List (LinearExpr Int ν))
  /-- The arcs in use form a single circuit through all nodes but those that are left out by a loop
  at the node. -/
  | circuit (arcs : List (Arc ν))

def Constraint.vars {ν : Type} : Constraint ν → List ν
  | .boolOr literals => literals.map (·.var)
  | .atMostOne literals => literals.map (·.var)
  | .exactlyOne literals => literals.map (·.var)
  | .linear e _ _ enforceIf => e.terms.map (·.2) ++ enforceIf.toList.map (·.var)
  | .maximum target es => target.var :: es.flatMap fun e => e.terms.map (·.2)
  | .circuit arcs => arcs.map (·.literal.var)

/-- The parameters of a search. -/
structure SearchParameters where
  /-- The time allowed, in seconds, if it is limited. -/
  timeLimit : Value := .null
  seed : Value := .int 0
  /-- The number of threads, if it is given. -/
  workers : Value := .int 1
  logProgress : Value := .bool false

/-- What is said to a search engine. -/
inductive Posting (ν : Type) where
  | newBool (v : ν)
  /-- Create a whole-numbered variable between two bounds, which have to be whole numbers. -/
  | newInt (lower upper : Value) (v : ν)
  | constrain (c : Constraint ν)
  /-- Suggest a value for a variable. -/
  | hint (v : ν) (value : Int)
  | clearHints
  /-- Set the objective, in place of an earlier one. -/
  | minimize (expr : LinearExpr Int ν)
  | solve (parameters : SearchParameters)

/-- The variables whose values matter to a posting. -/
def Posting.vars {ν : Type} : Posting ν → List ν
  | .constrain c => c.vars
  | .minimize e => e.terms.map (·.2)
  | _ => []

end NocRouting
