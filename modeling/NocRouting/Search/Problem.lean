import NocRouting.Constraint.Meaning
import NocRouting.Search.Course

/-!
# Choosing paths

A routing is a choice of one path for each flow.  What is posted on an engine then comes down to
measures of a choice: the objective is one, and every upper bound on an expression limits another.
A measure adds up what each flow contributes by itself, by the links it takes and by its overrun,
and what each congested link contributes.

* `Measure.ofExpr` is the measure that an expression comes to.
* `Problem.make` is the choice problem that is behind the postings for a context.
-/

namespace NocRouting.Search

-- Empty sums are the `0` of core, whatever a reader of this module has loaded besides.
attribute [local instance (2000)] Zero.ofOfNat0

/-- What a choice of paths is measured by. -/
structure Measure where
  /-- For each flow, what each link contributes if the flow takes it. -/
  links : Array (Array Int)
  /-- For each flow, what each link beyond its budget contributes. -/
  overruns : Array Int
  /-- What each link contributes if it is congested. -/
  congestion : Array Int

/-- The measure that an expression comes to, apart from its constant. -/
def Measure.ofExpr (numFlows numLinks : Nat) (e : RoutingExpr) : Measure :=
  e.terms.foldl (fun m (c, v) =>
    match v with
    | .link f l => { m with links := m.links.modify f fun ws => ws.modify l (· + c) }
    | .overrun f => { m with overruns := m.overruns.modify f (· + c) }
    | .congested l => { m with congestion := m.congestion.modify l (· + c) }
    | _ => m)
    ⟨Array.replicate numFlows (Array.replicate numLinks 0), Array.replicate numFlows 0,
      Array.replicate numLinks 0⟩

/-- What a measure says of a single flow. -/
structure OwnCosts where
  /-- What each link contributes if the flow takes it. -/
  links : Array Int
  /-- What the overrun contributes, given the number of links. -/
  overrun : Nat → Int

/-- The contribution of a path. -/
def OwnCosts.of (c : OwnCosts) (path : List Link) : Int :=
  (path.map fun l => c.links.getD l.index 0).sum + c.overrun path.length

/-- A flow for which a path is to be chosen. -/
structure Task where
  flow : Nat
  demand : Int
  course : Course
  /-- What it contributes to each measure. -/
  costs : List OwnCosts
  /-- The costs of going on under each measure. -/
  outlooks : List (Array (Array (Option Int)))
  /-- The least it contributes to each measure. -/
  least : List Int
  /-- A path that is not to be chosen. -/
  excluded : Option (List Nat)

/-- The flow has nowhere to go. -/
def Task.isIdle (t : Task) : Bool :=
  t.course.source == t.course.sink

/-- A set of routers which some flows have to leave. -/
structure Cut where
  /-- The routers of the set. -/
  inside : Array Bool
  /-- The links that lead out of the set. -/
  links : List Nat

/-- The flow has to leave the set. -/
def Cut.isCrossedBy (c : Cut) (t : Task) : Bool :=
  0 < t.demand && c.inside.getD t.course.source false && !c.inside.getD t.course.sink true

/-- A choice problem. -/
structure Problem where
  /-- The flows; none if one of them has no path. -/
  tasks : Option (List Task)
  /-- The greatest load of a link that is not congested. -/
  capacity : Number
  numLinks : Nat
  /-- The measures, of which the first is to be minimised. -/
  measures : List Measure
  /-- For each measure but the first, the greatest value allowed. -/
  limits : List Int
  /-- Sets of routers which flows have to leave, in families.  No link leads out of two sets of a
  family. -/
  cuts : List (List Cut)
  /-- The value of the first measure beyond which nothing better is looked for. -/
  floor : Option Int

/-! ### Cuts -/

namespace Cut

/-- The cut around the routers that meet a condition. -/
def ofRouters (t : Topology) (isInside : Nat → Bool) : Cut where
  inside := (t.routers.map fun r => isInside r.index).toArray
  links := (t.links.filter fun l => isInside l.source && !isInside l.sink).map (·.index)

/-- Cuts between the columns and between the rows. -/
def straight (t : Topology) : List Cut :=
  let positions := (t.compressed.getD []).toArray
  let along (coordinate : CompressedPosition → Nat) : List Cut :=
    let isBelow (k r : Nat) : Bool := positions[r]?.any (coordinate · ≤ k)
    let values := (positions.toList.map coordinate).eraseDups
    values.flatMap fun k => [ofRouters t (isBelow k), ofRouters t (!isBelow k ·)]
  along (·.x) ++ along (·.y)

/-- The cuts that flows have to cross, in families. -/
def families (t : Topology) (tasks : List Task) : List (List Cut) :=
  let routers := t.routers.map (·.index)
  let departures := routers.map fun r => ofRouters t (· == r)
  let arrivals := routers.map fun r => ofRouters t (· != r)
  let all := departures :: arrivals :: (straight t).map ([·])
  (all.map fun family => family.filter fun c => tasks.any c.isCrossedBy).filter (!·.isEmpty)

end Cut

/-! ### Problems -/

/-- The number of links that a flow takes beyond its budget, if it has one. -/
def overrunOf (m : RoutingModel) (flow : Nat) (length : Nat) : Int :=
  match m.budgets.find? (·.1 == flow) with
  | some (_, budget) => max 0 (length - budget)
  | none => 0

/-- The expressions that have been given nothing but an upper bound, with these bounds. -/
def limitsIn (postings : List (Posting RoutingVar)) : List (RoutingExpr × Int) :=
  postings.filterMap fun
    | .constrain (.linear e none (some (.number (.int n))) none) => some (e, n)
    | _ => none

/-- What a flow contributes to a measure. -/
def ownCosts (m : RoutingModel) (flow : Nat) (measure : Measure) : OwnCosts where
  links := measure.links.getD flow #[]
  overrun := fun length => measure.overruns.getD flow 0 * overrunOf m flow length

/-- The task for a flow with a demand, if it has a path. -/
def taskOf (c : Context) (m : RoutingModel) (measures : List Measure) (f : RoutedFlow)
    (demand : Int) : Except Fault (Option Task) := do
  let a ← c.topology.compressedAt (.int f.source)
  let b ← c.topology.compressedAt (.int f.sink)
  let course := Course.make c.topology c.turnModel f.source f.sink (b.x - a.x) (b.y - a.y)
  let costs := measures.map (ownCosts m f.flow.id)
  let weights := costs.map fun o => course.weighed fun l => some (o.links.getD l 0)
  let outlooks := (weights.zip costs).map fun (ws, o) => course.outlook ws o.overrun
  let least := ((weights.zip outlooks).zip costs).mapM fun ((ws, outlook), o) =>
    if f.source = f.sink then some (o.overrun 0) else course.leastFrom ws outlook
  return least.map fun least => {
    flow := f.flow.id
    demand := demand
    course := course
    costs := costs
    outlooks := outlooks
    least := least
    excluded := none }

/-- The choice problem that is behind the postings for a context. -/
def Problem.make (c : Context) (resolution : Value) (m : RoutingModel)
    (postings : List (Posting RoutingVar)) : Except Fault Problem := do
  let limits := limitsIn postings
  let exprs := (lastObjective? postings).getD (.const 0) :: limits.map (·.1)
  let measures := exprs.map (Measure.ofExpr m.flows.length m.numLinks)
  let tasks ← (m.flows.zip m.demands).mapM fun (f, d) => taskOf c m measures f d
  let tasks := tasks.mapM id
  return {
    tasks := tasks.map fun ts => ts.mergeSort fun a b => b.demand ≤ a.demand
    capacity := ← if m.numLinks = 0 then pure 0 else resolution.asNumber
    numLinks := m.numLinks
    measures := measures
    limits := limits.map fun (e, n) => n - e.constant
    cuts := Cut.families c.topology (tasks.getD [])
    floor := none }

end NocRouting.Search
