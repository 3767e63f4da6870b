import NocRouting.Context
import NocRouting.Log
import NocRouting.Model.Draft
import NocRouting.Model.Quantities
import NocRouting.Model.Variable

/-!
# The routing model

The model has a boolean variable for every flow and link, which is true where the flow takes the
link.  The families of constraints on them are these.

* Overrun: a counter for every flow with a latency requirement tells by how many links it exceeds
  its budget.
* Congestion: an indicator for every link tells whether the flows on it demand more than it can
  carry.
* Turns: no flow takes an illegal turn.
* Continuity: the links of a flow form a single simple path between its ends.
* Progress: the links of a flow make up the displacement between its ends.

The objective is to minimise the overrun, then the number of congested links, then the bandwidth
routed.  Known routes become hints and nothing more.
-/

namespace NocRouting

/-- Expressions over the variables of a routing model. -/
abbrev RoutingExpr := LinearExpr Int RoutingVar

/-- Postings that build a routing model. -/
abbrev RoutingDraft := Draft RoutingVar

/-- A flow with the routers at its ends. -/
structure RoutedFlow where
  flow : Flow
  /-- The router it leads from. -/
  source : Nat
  /-- The router it leads to. -/
  sink : Nat

/-- What is known of a model that was built. -/
structure RoutingModel where
  /-- The flows with the routers at their ends. -/
  flows : List RoutedFlow
  /-- The demands of the flows.  Demands beyond those of the flows only count in the weights. -/
  demands : List Int
  /-- The flows with a latency requirement, and the number of links each can take. -/
  budgets : List (Nat × Int)
  numLinks : Nat
  numIllegalTurns : Nat
  /-- The number of flows with a known route. -/
  numHinted : Nat

namespace RoutingModel

/-! ### Expressions -/

/-- The sum of some variables of a flow. -/
def sumOf (vars : List RoutingVar) : RoutingExpr :=
  .sum vars 0

/-- The variables of a flow on some links. -/
def linkVars (flow : Nat) (links : List Link) : List RoutingVar :=
  links.map fun l => .link flow l.index

def totalOverrun (budgets : List (Nat × Int)) : RoutingExpr :=
  sumOf (budgets.map fun b => .overrun b.1)

def totalCongested (numLinks : Nat) : RoutingExpr :=
  sumOf ((List.range numLinks).map .congested)

/-- The bandwidth routed: every flow counts its demand on every link it takes. -/
def aggregateBandwidth (numFlows : Nat) (demands : List Int) (numLinks : Nat) : RoutingExpr :=
  let terms := (demands.take numFlows).zipIdx.flatMap fun (d, f) =>
    (List.range numLinks).map fun l => (d, RoutingVar.link f l)
  ⟨terms, 0⟩

def objective (numFlows : Nat) (demands : List Int) (budgets : List (Nat × Int))
    (numLinks : Nat) : RoutingExpr :=
  let weights := objectiveWeights demands numLinks
  (totalOverrun budgets).scale weights.1 + (totalCongested numLinks).scale weights.2 +
    aggregateBandwidth numFlows demands numLinks

/-! ### Constraints -/

/-- Variables that are false. -/
def unused (vars : List RoutingVar) : List (Posting RoutingVar) :=
  vars.map fun v => .constrain (.boolOr [(Literal.of v).negated])

/-- Exactly one of some variables is true, which is impossible if there are none. -/
def exactlyOneOf (vars : List RoutingVar) : Posting RoutingVar :=
  .constrain (if vars.isEmpty then .linear (.const 0) (some (.int 1)) (some (.int 1)) none
    else .exactlyOne (vars.map .of))

/-- At most one of some variables is true. -/
def atMostOneOf (vars : List RoutingVar) : List (Posting RoutingVar) :=
  if vars.isEmpty then [] else [.constrain (.atMostOne (vars.map .of))]

/-- An expression has a value. -/
def equals (e : RoutingExpr) (n : Int) : Posting RoutingVar :=
  .constrain (.linear e (some (.int n)) (some (.int n)) none)

/-- The variables of all flows on all links. -/
def linkVariables (t : Topology) (flows : List RoutedFlow) : List (Posting RoutingVar) :=
  flows.flatMap fun f => (linkVars f.flow.id t.links).map .newBool

/-- The greatest overrun that a counter has to hold: the one given, or that of a flow that takes
all links beyond its budget. -/
def greatestOverrun (t : Topology) (maxOverrun : Value) (budget : Int) : Except Fault Value := do
  let excess : Int := t.links.length - budget
  return if (← maxOverrun.asNumber).lt (.int excess) then .int excess else maxOverrun

def overrunCounter (t : Topology) (greatest : Value) (flow : Nat) (budget : Int) :
    List (Posting RoutingVar) :=
  let excess := (sumOf (linkVars flow t.links)).shift (-budget)
  [.newInt (.int 0) greatest (.overrun flow),
    .constrain (.maximum (.of (.overrun flow)) [excess, .const 0])]

/-- The overrun counters of the flows with a latency requirement, with their budgets. -/
def overrunCounters (t : Topology) (maxOverrun : Value) :
    List RoutedFlow → RoutingDraft (List (Nat × Int))
  | [] => return []
  | f :: rest => do
    if (← f.flow.isConstrained) then
      let budget ← hopBudget t.linkLatency t.routerLatency f.flow.maxLatency
      let greatest ← greatestOverrun t maxOverrun budget
      .postAll (overrunCounter t greatest f.flow.id budget)
      return (f.flow.id, budget) :: (← overrunCounters t maxOverrun rest)
    else
      overrunCounters t maxOverrun rest

/-- The demand routed over a link. -/
def routedOver (numFlows : Nat) (demands : List Int) (link : Nat) : RoutingExpr :=
  .weightedSum ((List.range numFlows).map (.link · link)) demands 0

/-- The congestion indicator of a link: it is false where the demand is at most the resolution, and
true where it is more. -/
def congestionIndicator (numFlows : Nat) (demands : List Int) (resolution : Value) (l : Link) :
    RoutingDraft Unit := do
  let indicator : Literal RoutingVar := .of (.congested l.index)
  let routed := routedOver numFlows demands l.index
  .post (.newBool (.congested l.index))
  if demands.length < numFlows then Draft.fail (.range .index)
  .post (.constrain (.linear routed none (some resolution) (some indicator.negated)))
  let beyond ← resolution.plus (.int 1)
  .post (.constrain (.linear routed (some beyond) none (some indicator)))

def congestionIndicators (t : Topology) (numFlows : Nat) (demands : List Int)
    (resolution : Value) : RoutingDraft Unit :=
  discard <| Draft.forEach (congestionIndicator numFlows demands resolution) t.links

/-- No flow takes an illegal turn. -/
def legalTurns (turns : List (Nat × Nat)) (flows : List RoutedFlow) : List (Posting RoutingVar) :=
  flows.flatMap fun f => turns.map fun (a, b) =>
    .constrain (.boolOr
      [(Literal.of (.link f.flow.id a)).negated, (Literal.of (.link f.flow.id b)).negated])

/-- At a router on the way, a flow leaves as often as it enters, and at most once. -/
def passage (t : Topology) (flow router : Nat) : List (Posting RoutingVar) :=
  let incoming := linkVars flow (t.incoming router)
  let outgoing := linkVars flow (t.outgoing router)
  [equals (sumOf incoming - sumOf outgoing) 0] ++ atMostOneOf incoming ++ atMostOneOf outgoing

/-- The routers other than the ends of a flow. -/
def routersBetween (t : Topology) (source sink : Nat) : List Nat :=
  (t.routers.map (·.index)).filter fun r => r != source && r != sink

/-- Two links join the same routers, in the same direction. -/
def areParallel (k l : Link) : Bool :=
  k.source == l.source && k.sink == l.sink

/-- The links that a flow can take, each with those that are parallel to it and come later, in
increasing order of the routers they join.  A path does not come back to its source and does not go
on from its sink. -/
def joins (t : Topology) (source sink : Nat) : List (Link × List Link) :=
  let usable := t.links.filter fun l => l.sink != source && l.source != sink
  let firsts := usable.foldl (fun seen l =>
    if seen.any (areParallel l) then seen else seen ++ [l]) []
  let inOrder := firsts.mergeSort fun k l =>
    k.source < l.source || (k.source == l.source && k.sink ≤ l.sink)
  inOrder.map fun k => (k, usable.filter fun l => areParallel k l && l.index != k.index)

/-- The arc between two joined routers, and the postings that introduce it.  Parallel links share
one arc, with a variable of its own. -/
def joiningArc (flow : Nat) : Link × List Link → List (Posting RoutingVar) × Arc RoutingVar
  | (l, []) => ([], ⟨l.shownSource, l.shownSink, .of (.link flow l.index)⟩)
  | (l, others) =>
    let v := RoutingVar.arc flow l.shownSource l.shownSink
    ([.newBool v, equals (sumOf (linkVars flow (l :: others)) - sumOf [v]) 0],
      ⟨l.shownSource, l.shownSink, .of v⟩)

/-- The path of a flow, closed by an arc from its end to its beginning, is a single circuit. -/
def closedPath (t : Topology) (flow source sink : Nat) : List (Posting RoutingVar) :=
  let arcs := (joins t source sink).map (joiningArc flow)
  let closing : Literal RoutingVar := .of (.closing flow)
  let between := routersBetween t source sink
  arcs.flatMap (·.1) ++
    [.newBool (.closing flow), .constrain (.boolOr [closing])] ++
    between.map (fun r => .newBool (.skip flow r)) ++
    [.constrain (.circuit (arcs.map (·.2) ++ [⟨.number sink, .number source, closing⟩] ++
      between.map fun r => ⟨.number r, .number r, .of (.skip flow r)⟩))]

/-- The links of a flow form a single simple path. -/
def continuity (t : Topology) (f : RoutedFlow) : List (Posting RoutingVar) :=
  let vars := linkVars f.flow.id
  if f.source = f.sink then unused (vars t.links)
  else
    [exactlyOneOf (vars (t.outgoing f.source)), exactlyOneOf (vars (t.incoming f.sink))] ++
      unused (vars (t.incoming f.source)) ++ unused (vars (t.outgoing f.sink)) ++
      (routersBetween t f.source f.sink).flatMap (passage t f.flow.id) ++
      closedPath t f.flow.id f.source f.sink

/-- The links of a flow make up a displacement along one axis. -/
def progressAlong (t : Topology) (flow : Nat) (forwards backwards : Direction)
    (displacement : Int) : Posting RoutingVar :=
  equals (sumOf (linkVars flow (t.linksTowards forwards)) -
    sumOf (linkVars flow (t.linksTowards backwards))) displacement

/-- The links of a flow make up the displacement between its ends. -/
def progress (t : Topology) (f : RoutedFlow) : RoutingDraft Unit := do
  if f.source ≠ f.sink then
    let a ← t.compressedAt (.int f.source)
    let b ← t.compressedAt (.int f.sink)
    .postAll
      [progressAlong t f.flow.id .east .west ((b.x : Int) - a.x),
        progressAlong t f.flow.id .north .south ((b.y : Int) - a.y)]

/-- The hints for a flow with a known route. -/
def routeHints (t : Topology) (f : RoutedFlow) : RoutingDraft Bool := do
  if f.flow.route.isEmpty then return false
  let route ← f.flow.route.mapM (·.asKey)
  .postAll (t.links.map fun l =>
    .hint (.link f.flow.id l.index) (if route.any (·.same (.int l.index)) then 1 else 0))
  return true

def build (c : Context) (resolution maxOverrun : Value) : RoutingDraft RoutingModel := do
  let t := c.topology
  let flows ← c.flows.mapM fun f => do
    let (source, sink) ← c.flowRouters f
    return RoutedFlow.mk f source sink
  let demands ← rescale (c.flows.map (·.bandwidth)) t.linkBandwidth resolution
  .postAll (linkVariables t flows)
  let budgets ← overrunCounters t maxOverrun flows
  congestionIndicators t flows.length demands resolution
  let turns := t.illegalTurns c.turnModel
  .postAll (legalTurns turns flows)
  .postAll (flows.flatMap (continuity t))
  discard <| Draft.forEach (progress t) flows
  .post (.minimize (objective flows.length demands budgets t.links.length))
  let hinted ← Draft.forEach (routeHints t) flows
  return {
    flows := flows
    demands := demands
    budgets := budgets
    numLinks := t.links.length
    numIllegalTurns := turns.length
    numHinted := hinted.countP id }

/-! ### Reports -/

def weights (m : RoutingModel) : Int × Int :=
  objectiveWeights m.demands m.numLinks

/-- A note for those who look for a defect. -/
def debugNote (message : String) : LogEntry := ⟨.debug, message⟩

/-- The notes on a model that was built. -/
def notes (m : RoutingModel) : List LogEntry :=
  let flows := toString m.flows.length
  [debugNote ("Added " ++ toString m.budgets.length ++ " latency overrun counters."),
    debugNote ("Added " ++ toString m.numLinks ++ " congestion indicators."),
    debugNote ("Forbade " ++ toString m.numIllegalTurns ++ " illegal turns for " ++ flows ++
      " traffic flows."),
    debugNote ("Hinted known routes for " ++ toString m.numHinted ++ " traffic flows."),
    debugNote ("Built routing model for " ++ flows ++ " traffic flows over " ++
      toString m.numLinks ++ " links.")]

end RoutingModel

end NocRouting
