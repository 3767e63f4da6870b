import NocRouting.Fault

/-!
# Outcomes of a search

A search for a solution ends in one of five ways, in two of which there is a solution to read.
-/

namespace NocRouting

/-- The outcome of a search. -/
inductive Status where
  /-- A best solution was found, and proven to be one. -/
  | optimal
  /-- A solution was found which may not be a best one. -/
  | feasible
  | infeasible
  /-- No solution was found with the time and means given. -/
  | unknown
  /-- What was to be searched is malformed. -/
  | modelInvalid
  deriving DecidableEq, Repr

namespace Status

/-- The outcomes in the order of their numbers. -/
def all : List Status :=
  [optimal, feasible, infeasible, unknown, modelInvalid]

def code : Status → Nat
  | optimal => 0
  | feasible => 1
  | infeasible => 2
  | unknown => 3
  | modelInvalid => 4

def name : Status → String
  | optimal => "optimal"
  | feasible => "feasible"
  | infeasible => "infeasible"
  | unknown => "unknown"
  | modelInvalid => "model_invalid"

def ofName? (s : Text) : Option Status :=
  all.find? fun m => Text.ofString m.name == s

/-- There is a solution to read. -/
def isFeasible : Status → Bool
  | optimal => true
  | feasible => true
  | _ => false

/-- The outcome with the number that a value stands for. -/
def ofValue (v : Value) : Except Fault Status :=
  match all.find? fun s => v.same (.int s.code) with
  | some s => .ok s
  | none => .error (.refused (.notMember v "SolveStatus"))

@[simp] theorem isFeasible_iff (s : Status) : s.isFeasible = true ↔ s = optimal ∨ s = feasible := by
  cases s <;> simp [isFeasible]

end Status

end NocRouting
