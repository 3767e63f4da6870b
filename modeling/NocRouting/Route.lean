import NocRouting.Model.Build
import NocRouting.Stage
import NocRouting.Topology.Chain

/-!
# Routing

The flows of a context are routed by building the routing model on an engine, having the engine
solve it, and reading the route of every flow off the solution.  If that is wanted, a second search
then looks for less bandwidth, without giving up any of what the first achieved on overrun and
congestion; it has only the time that the first left over.

* `route` is a run against an engine, stage by stage.
-/

namespace NocRouting

-- Empty sums are the `0` of core, whatever a reader of this module has loaded besides.
attribute [local instance (2000)] Zero.ofOfNat0

/-- The choices to make for a run. -/
structure RouteOptions where
  /-- The number of units that a fully loaded link carries. -/
  resolution : Value := .int defaultResolution
  /-- A second search is to look for less bandwidth. -/
  minimizesBandwidth : Bool := false
  /-- The parameters of the first search. -/
  search : SearchParameters := {}

/-- The result of a run. -/
structure RoutingResult where
  /-- How the search that decided it ended. -/
  status : Status
  /-- The links of the route of every flow, in travelling order; nothing if no routing was found. -/
  routes : List (List Int)

/-- A run: what happened, and the result or the fault that ended it. -/
abbrev RouteRun := Stage RoutingResult

namespace Route

/-! ### Notes -/

/-- A note for those who follow the progress. -/
def progressNote (message : String) : LogEntry :=
  ⟨.info, message⟩

/-- Seconds in a note. -/
def seconds (x : Float) : String :=
  doubleFixed 2 x ++ " s."

/-- There is nothing to do. -/
def idleNote : LogEntry :=
  progressNote "No traffic flows to route."

/-- The search begins. -/
def startNote (flows links : Nat) : LogEntry :=
  progressNote ("Routing " ++ toString flows ++ " traffic flows over " ++ toString links ++
    " links.")

/-- There is no routing. -/
def failureNote (status : Status) (elapsed : Float) : LogEntry :=
  progressNote ("No routing found (" ++ status.name ++ ") after " ++ seconds elapsed)

/-- The time is up after the first search. -/
def spentNote : LogEntry :=
  progressNote "No time left to minimise aggregate bandwidth; keeping the first routing."

/-- The second search begins.  Nothing is noted of an overrun that has no whole part. -/
def refineNotes (overrun : Value) (congested : Int) : List LogEntry :=
  match overrun.truncated with
  | .ok shown =>
    [progressNote ("Minimising aggregate bandwidth with latency overrun " ++ toString shown ++
      " and " ++ toString congested ++ " congested links.")]
  | .error _ => []

/-- The second search has failed. -/
def keepNote (status : Status) : LogEntry :=
  progressNote ("Bandwidth minimisation found no solution (" ++ status.name ++
    "); keeping the first routing.")

/-- The run ends with a routing. -/
def finishNote (status : Status) (elapsed : Float) : LogEntry :=
  progressNote ("Routing finished (" ++ status.name ++ ") after " ++ seconds elapsed)

/-! ### Reading a solution -/

/-- Read which links a flow takes in a solution. -/
def readSelected (t : Topology) (a : Answer RoutingVar) (flow : Nat) : Stage (List Value) := do
  let truths ← Stage.forEach (fun l => do return (l, ← Stage.readTruth a (.link flow l.index)))
    t.links
  return (truths.filter (·.2)).map fun (l, _) => .int l.index

/-- Read the routes of flows in a solution.  Reading ends with the first flow whose links do not form
a chain between its ends. -/
def readRoutes (t : Topology) (a : Answer RoutingVar) :
    List RoutedFlow → Stage (List (List Int)) :=
  Stage.forEach fun f => do
    let links ← readSelected t a f.flow.id
    let chain ← t.chain links (some (.int f.source)) (some (.int f.sink))
    return chain.map fun g => (g.2.index : Int)

/-- Read the total overrun in a solution, added up flow by flow. -/
def readOverrun (a : Answer RoutingVar) (total : Value) : List (Nat × Int) → Stage Value
  | [] => return total
  | (flow, _) :: rest => do
    let total ← total.plus (← Stage.read a (.overrun flow))
    readOverrun a total rest

/-- Read the number of congested links in a solution. -/
def readCongested (m : RoutingModel) (a : Answer RoutingVar) : Stage Int := do
  let truths ← Stage.forEach (fun l => Stage.readTruth a (.congested l)) (List.range m.numLinks)
  return truths.count true

/-- The variables of all flows on all links. -/
def allLinkVars (m : RoutingModel) : List RoutingVar :=
  m.flows.flatMap fun f => (List.range m.numLinks).map (.link f.flow.id)

/-- Read a solution as a suggestion to start from. -/
def readHints (m : RoutingModel) (a : Answer RoutingVar) : Stage (List (RoutingVar × Int)) :=
  Stage.forEach (fun v => do return (v, if ← Stage.readTruth a v then 1 else 0)) (allLinkVars m)

/-- What is posted before the second search: neither the overrun nor the number of congested links
may grow, there are new hints, and the bandwidth is the objective. -/
def limits (m : RoutingModel) (overrun : Value) (congested : Int)
    (hints : List (RoutingVar × Int)) : List (Posting RoutingVar) :=
  [.constrain (.linear (RoutingModel.totalOverrun m.budgets) none (some overrun) none),
    .constrain (.linear (RoutingModel.totalCongested m.numLinks) none (some (.int congested)) none),
    .clearHints] ++
  hints.map (fun (v, n) => .hint v n) ++
  [.minimize (RoutingModel.aggregateBandwidth m.flows.length m.demands m.numLinks)]

/-! ### Stages -/

/-- What is left of a time limit, which may be missing. -/
def timeLeft (limit : Value) (elapsed : Float) : Except Fault Value :=
  match limit with
  | .null => return .null
  | v => v.minus (.number (.float elapsed))

/-- No time is left. -/
def isSpent : Value → Bool
  | .number n => n.le 0
  | _ => false

/-- The end of a run with a routing. -/
def finish (status : Status) (routes : List (List Int)) (elapsed : Float) : RouteRun := do
  Stage.noteAll [finishNote status elapsed]
  return ⟨status, routes⟩

/-- The second search, after postings that ended with the first, given the limits it is held to. -/
def refineFrom (e : Engine RoutingVar) (t : Topology) (m : RoutingModel)
    (posted : List (Posting RoutingVar)) (first : Answer RoutingVar) (routes : List (List Int))
    (search : SearchParameters) (limits : List (Posting RoutingVar)) : RouteRun := do
  Stage.post e limits
  let second ← Stage.solve e (posted ++ limits) search
  let elapsed := first.elapsed + second.elapsed
  if second.status.isFeasible then
    let better ← readRoutes t second m.flows
    finish second.status better elapsed
  else
    Stage.noteAll [keepNote second.status]
    finish first.status routes elapsed

/-- The second search, which begins with reading what the first achieved. -/
def refine (e : Engine RoutingVar) (t : Topology) (m : RoutingModel)
    (posted : List (Posting RoutingVar)) (first : Answer RoutingVar) (routes : List (List Int))
    (search : SearchParameters) : RouteRun := do
  let overrun ← readOverrun first (.int 0) m.budgets
  let congested ← readCongested m first
  let hints ← readHints m first
  Stage.noteAll (refineNotes overrun congested)
  refineFrom e t m posted first routes search (limits m overrun congested hints)

/-- What follows the first search, if it found a routing. -/
def continueFrom (e : Engine RoutingVar) (t : Topology) (m : RoutingModel) (o : RouteOptions)
    (posted : List (Posting RoutingVar)) (first : Answer RoutingVar)
    (routes : List (List Int)) : RouteRun := do
  if o.minimizesBandwidth then
    let left ← timeLeft o.search.timeLimit first.elapsed
    if isSpent left then
      Stage.noteAll [spentNote]
      finish first.status routes first.elapsed
    else refine e t m posted first routes { o.search with timeLimit := left }
  else finish first.status routes first.elapsed

/-- The first search, and what follows it. -/
def search (e : Engine RoutingVar) (t : Topology) (m : RoutingModel) (o : RouteOptions)
    (built : List (Posting RoutingVar)) : RouteRun := do
  let first ← Stage.solve e built o.search
  if first.status.isFeasible then
    let routes ← readRoutes t first m.flows
    continueFrom e t m o (built ++ [.solve o.search]) first routes
  else
    Stage.noteAll [failureNote first.status first.elapsed]
    return ⟨first.status, []⟩

end Route

/-- Route the flows of a context with the help of an engine. -/
def route (e : Engine RoutingVar) (c : Context) (o : RouteOptions) : RouteRun := do
  if c.flows.isEmpty then
    Stage.noteAll [Route.idleNote]
    return ⟨.optimal, []⟩
  else
    let draft := RoutingModel.build c o.resolution (.int defaultMaxOverrun)
    Stage.post e draft.postings
    let m ← draft.outcome
    Stage.noteAll (m.notes ++ [Route.startNote c.flows.length c.topology.links.length])
    Route.search e c.topology m o draft.postings

end NocRouting
