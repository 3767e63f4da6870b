import NocRouting.Constraint.Limits
import NocRouting.Constraint.Parameters
import NocRouting.Route
import NocRouting.Search.Best

/-!
# The engine of the library

The engine answers a request to solve by an exhaustive search over the paths of the flows.  It is
made for one context, and understands what `route` posts for it.

* `Search.solve` is the outcome of a search.
* `Search.engine` answers with the solution of the search.
-/

namespace NocRouting

-- Empty sums are the `0` of core, whatever a reader of this module has loaded besides.
attribute [local instance (2000)] Zero.ofOfNat0

namespace Search

/-- The values of the variables in a solution that routes flows over given paths. -/
def assignment (m : RoutingModel) (capacity : Number) (paths : List (List Link)) :
    RoutingVar → Int
  | .link f l => truth ((pathOf f).any (·.index == l))
  | .overrun f => overrunOf m f (pathOf f).length
  | .congested l => truth (capacity.lt (.int (load l)))
  | .arc f a b => truth ((pathOf f).any fun l => l.source == a.value && l.sink == b.value)
  | .closing _ => 1
  | .skip f r => truth (!(pathOf f).any fun l => l.source == r || l.sink == r)
where
  /-- A truth value as a number. -/
  truth (b : Bool) : Int := if b then 1 else 0
  /-- The path of a flow. -/
  pathOf (f : Nat) : List Link := paths[f]?.getD []
  /-- The demand routed over a link. -/
  load (l : Nat) : Int :=
    ((m.demands.zip paths).map fun (d, path) => if path.any (·.index == l) then d else 0).sum

/-- The outcome of a search that began. -/
structure Solution where
  /-- The problem that was searched. -/
  problem : Problem
  /-- What is known of the model. -/
  model : RoutingModel
  objective : RoutingExpr
  /-- A best choice of paths, if there is any choice. -/
  found : Option Found

/-- Search for a best solution of everything posted. -/
def solve (c : Context) (resolution : Value) (postings : List (Posting RoutingVar)) :
    Except Fault Solution := do
  let m ← (RoutingModel.build c resolution (.int defaultMaxOverrun)).outcome
  let p ← Problem.make c resolution m postings
  return ⟨p, m, (lastObjective? postings).getD (.const 0), p.best⟩

/-- The parameters of the request at the end of some postings. -/
def parametersOf (postings : List (Posting RoutingVar)) : SearchParameters :=
  match postings.getLast? with
  | some (.solve s) => s
  | _ => {}

/-- The bounds of the variables that were created: those of the overrun counters as posted, and
those of a boolean variable for the others. -/
def rangeIn (postings : List (Posting RoutingVar)) : RoutingVar → Int × Int :=
  let counters := postings.filterMap fun
    | .newInt (.number (.int m)) (.number (.int n)) v => some (v, m, n)
    | _ => none
  fun
    | .overrun flow => ((counters.find? (·.1 = .overrun flow)).map (·.2)).getD (0, 0)
    | _ => (0, 1)

/-- How the request at the end of some postings is answered without a search, if it is. -/
def verdict (postings : List (Posting RoutingVar)) : Except Fault (Option Status) :=
  (parametersOf postings).verdict (areValid (rangeIn postings) postings)

/-- The answer that reports no solution. -/
def unsolved (status : Status) : Answer RoutingVar :=
  ⟨status, fun _ => .int 0, 0.0⟩

def answer (c : Context) (resolution : Value) (postings : List (Posting RoutingVar)) :
    Except Fault (Answer RoutingVar) := do
  if let some status ← verdict postings then return unsolved status
  let s ← solve c resolution postings
  match s.found with
  | some b =>
    let σ := assignment s.model s.problem.capacity b.paths
    return ⟨.optimal, fun v => .int (σ v), 0.0⟩
  | none => return unsolved .infeasible

/-- A variable in a message, with its bounds. -/
def describe (v : RoutingVar) : Text :=
  v.name ++ "(0..1)"

/-- The engine for a context. -/
def engine (c : Context) (resolution : Value) : Engine RoutingVar where
  accepts := Posting.admission describe
  answer := answer c resolution

end Search

end NocRouting
