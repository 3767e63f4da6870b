import NocRouting.Search.Problem

/-!
# Bounds for choices

Some flows have been given paths, and others are to follow.  This module bounds from below what any
completion of such an attempt comes to, under each measure.  The bound adds up

* what the flows routed so far contribute, and the links that are going to be congested in any case,
* the least that the other flows can contribute by themselves, without the links that cannot be
  afforded to become congested, and
* the least that further congested links contribute: for a flow that cannot arrive without making
  one, and for a cut with too little room for the flows that have to cross it.

`Problem.survey` works it out, and finds out which attempts are hopeless.
-/

namespace NocRouting.Search

-- Empty sums are the `0` of core, whatever a reader of this module has loaded besides.
attribute [local instance (2000)] Zero.ofOfNat0

/-- A choice of paths for some of the flows. -/
structure Attempt where
  /-- The paths chosen, with the numbers of their flows. -/
  chosen : List (Nat × List Link)
  loads : Array Int
  /-- What the paths contribute to the measures. -/
  costs : List Int

/-- A choice of paths for all flows. -/
structure Found where
  value : Int
  /-- The paths, by flow. -/
  paths : List (List Link)

/-- The sums of two lists, place by place. -/
def addEach (xs ys : List Int) : List Int :=
  List.zipWith (· + ·) xs ys

/-- Choose a path for a flow. -/
def Attempt.add (a : Attempt) (t : Task) (path : List Link) : Attempt where
  chosen := (t.flow, path) :: a.chosen
  loads := path.foldl (fun loads l => loads.modify l.index (· + t.demand)) a.loads
  costs := addEach a.costs (t.costs.map (·.of path))

/-- The costs of going on for a flow, under a measure and with the loads of an attempt. -/
structure Prospect where
  /-- The weight of each stage, unless it is not to be taken. -/
  weights : Array (Option Int)
  /-- The least cost of going on from each stage, if the flow can arrive. -/
  outlook : Array (Array (Option Int))
  /-- The least that the flow contributes by itself. -/
  least : Int
  /-- What the least cost of a path is above that, if the links count that the flow would make
  congested. -/
  surcharge : Int

/-- A flow with its costs of going on, for each measure. -/
abbrev Candidate := Task × List Prospect

/-- What others are certain to add to the costs of a flow, or of no flow at all. -/
structure Company where
  /-- What they add if no further link becomes congested. -/
  uncongested : Int
  /-- The least costs if one does, unless none can be afforded to. -/
  congested : Option Int

/-- The least costs in company. -/
def Company.bound (c : Company) (cost : Int) : Int :=
  match c.congested with
  | some least => min (cost + c.uncongested) (max cost least)
  | none => cost + c.uncongested

/-- No completion of an attempt relieves a link, and no congested link makes a measure less. -/
def Measure.isMonotone (m : Measure) (tasks : List Task) : Bool :=
  tasks.all (0 ≤ ·.demand) && m.congestion.all (0 ≤ ·)

namespace Problem

/-- A link with a load is congested. -/
def overloads (p : Problem) (load : Int) : Bool :=
  p.capacity.lt (.int load)

/-- A completion with the given bounds may keep within the limits and be better than the best
known. -/
def isPromising (p : Problem) (best : Option Found) : List Int → Bool
  | [] => true
  | value :: others =>
    best.all (fun b => value < b.value && p.floor.all (· < b.value)) &&
      (others.zip p.limits).all fun (x, limit) => x ≤ limit

/-! ### Links -/

/-- The least that links contribute to the measures by their congestion: all of the contribution of
one that is going to be congested in any case, and nothing of one that is going to be free.  It is
exact if there is nothing left to choose. -/
def congestionOf (p : Problem) (tasks : List Task) (loads : Array Int) : List Int :=
  let relief := (tasks.map fun t => min 0 t.demand).sum
  let burden := (tasks.map fun t => max 0 t.demand).sum
  let bound (load contribution : Int) : Int :=
    if p.overloads (load + relief) then contribution
    else if !p.overloads (load + burden) then 0
    else min 0 contribution
  p.measures.map fun m => (Array.zipWith bound loads m.congestion).foldl (· + ·) 0

/-- For each link, whether it can be afforded to become congested, given bounds for all
completions. -/
def affordable (p : Problem) (best : Option Found) (tasks : List Task) (bounds : List Int) :
    Array Bool :=
  let contributions := p.measures.map fun m => if m.isMonotone tasks then m.congestion else #[]
  (Array.range p.numLinks).map fun l =>
    p.isPromising best (addEach bounds (contributions.map (·.getD l 0)))

/-- The links that a flow would make congested. -/
def endangered (p : Problem) (t : Task) (loads : Array Int) : Array Bool :=
  loads.map fun load => !p.overloads load && p.overloads (load + t.demand)

/-- The least that a link contributes to a measure when it becomes congested, if one can be afforded
to. -/
def leastCongestion (p : Problem) (loads : Array Int) (affordable : Array Bool) (m : Measure) :
    Option Int :=
  let free := ((loads.zip affordable).zip m.congestion).filter fun ((load, isAffordable), _) =>
    isAffordable && !p.overloads load
  (free.map (·.2)).toList.min?

/-! ### Flows -/

/-- The sums of the least contributions of some flows. -/
def leastOf (p : Problem) (tasks : List Task) : List Int :=
  tasks.foldr (fun t rest => addEach t.least rest) (List.replicate p.measures.length 0)

/-- The same, without the links that cannot be afforded. -/
def leastOfCandidates (p : Problem) (candidates : List Candidate) : List Int :=
  candidates.foldr (fun t rest => addEach (t.2.map (·.least)) rest)
    (List.replicate p.measures.length 0)

/-- The costs of going on for a flow; none if it cannot arrive without a link that cannot be
afforded. -/
def prospects (p : Problem) (tasks : List Task) (loads : Array Int) (affordable : Array Bool)
    (t : Task) : Option (List Prospect) :=
  let endangered := p.endangered t loads
  let isClosed := Array.zipWith (fun isEndangered isAffordable => isEndangered && !isAffordable)
    endangered affordable
  let isFree := t.isIdle || !endangered.any id
  (((p.measures.zip t.costs).zip t.outlooks).zip t.least).mapM fun (((m, o), outlook), least) => do
    let weighed (extra : Nat → Int) : Array (Option Int) :=
      t.course.weighed fun l =>
        if isClosed.getD l false then none else some (o.links.getD l 0 + extra l)
    if isFree then return ⟨weighed fun _ => 0, outlook, least, 0⟩
    let weights := weighed fun _ => 0
    let outlook := if isClosed.any id then t.course.outlook weights o.overrun else outlook
    let least ← t.course.leastFrom weights outlook
    if !m.isMonotone tasks || m.congestion.all (· == 0) then
      return ⟨weights, outlook, least, 0⟩
    let weights := weighed fun l => if endangered.getD l false then m.congestion.getD l 0 else 0
    let outlook := t.course.outlook weights o.overrun
    let all ← t.course.leastFrom weights outlook
    return ⟨weights, outlook, least, all - least⟩

/-! ### Cuts -/

/-- Demands that cannot be divided can be put where there is some room on each of several links.  If
the answer is negative, it is certain. -/
def mayFit (rooms demands : List Int) : Bool :=
  demands.sum ≤ rooms.sum &&
    demands.all fun d => demands.countP (d ≤ ·) ≤ (rooms.map (· / d)).sum

/-- A cut stays free of congestion only if the flows that have to cross it fit. -/
def isNarrow (room : Int) (tasks : List Task) (loads : Array Int) (c : Cut) : Bool :=
  let demands := (tasks.filter c.isCrossedBy).map (·.demand)
  let rooms := c.links.map fun l => room - loads.getD l 0
  rooms.all (0 ≤ ·) && !mayFit rooms demands

/-- The least that a family of cuts contributes to a measure by links that become congested; none if
a cut has no link that can be afforded to. -/
def familyBound (affordable : Array Bool) (m : Measure) (narrow : List Cut) : Option Int :=
  (narrow.mapM fun (c : Cut) =>
    ((c.links.filter (affordable.getD · true)).map fun l => m.congestion.getD l 0).min?).map (·.sum)

/-! ### All together -/

/-- The company of some flows, for each measure, given the least costs of what they accompany. -/
def companyOf (p : Problem) (loads : Array Int) (affordable : Array Bool)
    (others : List Candidate) (least : List Int) : List Company :=
  (p.measures.zip least).zipIdx.map fun ((m, least), i) =>
    ⟨(others.map fun t => (t.2[i]?.map (·.surcharge)).getD 0).sum,
      (p.leastCongestion loads affordable m).map (least + ·)⟩

/-- The least that links contribute to each measure that are not congested yet; none if there is no
completion. -/
def surcharges (p : Problem) (tasks : List Task) (loads : Array Int) (affordable : Array Bool)
    (candidates : List Candidate) : Option (List Int) := do
  let nothing := List.replicate p.measures.length 0
  let company := p.companyOf loads affordable candidates nothing
  let narrow := p.capacity.floor.toOption.toList.flatMap fun room =>
    p.cuts.map (·.filter (isNarrow room tasks loads))
  (p.measures.zip company).zipIdx.mapM fun ((m, company), i) => do
    if !m.isMonotone tasks then return 0
    let single := candidates.map fun t => (t.2[i]?.map (·.surcharge)).getD 0
    let joint ← narrow.mapM (familyBound affordable m)
    return (company.bound 0 :: single ++ joint).foldl max 0

/-- What is known of an attempt before another flow is routed. -/
structure Survey where
  /-- What the flows routed so far contribute, and the links that are going to be congested. -/
  prior : List Int
  /-- For each link, whether it can be afforded to become congested. -/
  affordable : Array Bool
  /-- The flows to be routed. -/
  candidates : List Candidate

/-- What is known of an attempt, given the flows to be routed; nothing if no completion of it can
keep within the limits and be better than the best choice known. -/
def survey (p : Problem) (best : Option Found) (tasks : List Task) (a : Attempt) :
    Option Survey := do
  let prior := addEach a.costs (p.congestionOf tasks a.loads)
  let bounds := addEach prior (p.leastOf tasks)
  guard (p.isPromising best bounds)
  let affordable := p.affordable best tasks bounds
  let candidates ← tasks.mapM fun t => return (t, ← p.prospects tasks a.loads affordable t)
  let surcharges ← p.surcharges tasks a.loads affordable candidates
  let bounds := addEach (addEach prior (p.leastOfCandidates candidates)) surcharges
  guard (p.isPromising best bounds)
  return ⟨prior, affordable, candidates⟩

end Problem

end NocRouting.Search
