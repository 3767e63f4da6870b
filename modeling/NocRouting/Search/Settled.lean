import NocRouting.Search.Engine

/-!
# What all best routings agree on

There may be several best routings, and an engine is free to report any.  A route is settled if it
is the same in all of them; what is said about a run beyond its settled routes is a matter of
chance.

* `Search.objectives` is the least value of the objective for each search of a run.
* `Search.settledRoutes` are the settled routes of the last search.
-/

namespace NocRouting.Search

/-- The requests to solve among some postings, each with everything posted up to it. -/
def requests (postings : List (Posting RoutingVar)) : List (List (Posting RoutingVar)) :=
  postings.zipIdx.filterMap fun (p, i) =>
    match p with
    | .solve _ => some (postings.take (i + 1))
    | _ => none

/-- The solution that a request leads to, if there is one. -/
def solution? (c : Context) (o : RouteOptions) (request : List (Posting RoutingVar)) :
    Except Fault (Option (Solution × Found)) := do
  match ← verdict request with
  | some _ => return none
  | none =>
    let s ← solve c o.resolution request
    return s.found.map (s, ·)

/-- The least value of the objective for each request of a run that has a solution. -/
def objectives (c : Context) (o : RouteOptions) (r : RouteRun) : Except Fault (List Int) := do
  let solutions ← (requests r.postings).mapM (solution? c o)
  return (solutions.filterMap id).map fun (s, b) => b.value + s.objective.constant

/-- The routes of the best routings for the last request of a run, by flow; nothing for a flow whose
route is not settled. -/
def settledRoutes (c : Context) (o : RouteOptions) (r : RouteRun) :
    Except Fault (List (Option (List Int))) := do
  match (requests r.postings).getLast? with
  | none => return []
  | some request =>
    match ← solution? c o request with
    | none => return []
    | some (s, b) =>
      return (s.problem.settled b).map fun path => path.map fun path =>
        path.map fun l => (l.index : Int)

end NocRouting.Search
