import NocRouting.Search.Bound

/-!
# The best choice

The flows are taken one after the other, and every path of each is tried, link by link, the most
promising first.  An attempt is given up as soon as no completion of it can keep within the limits
and be better than the best choice known, as far as the bounds tell.

* `Problem.best` is a best choice.
* `Problem.settled` tells what all best choices have in common.
-/

namespace NocRouting.Search

namespace Problem

/-! ### Trying paths -/

/-- The beginning of a path. -/
structure Beginning where
  /-- The links, the last one first. -/
  links : List Link
  length : Nat
  visited : List Nat
  costs : List Int

/-- A beginning with another stage, given by number, and the least costs of whole paths that begin
so. -/
structure Lead where
  /-- The least costs. -/
  bounds : List Int
  stage : Nat
  /-- The beginning, up to the stage. -/
  beginning : Beginning

/-- The ways to go on in company, the most promising first. -/
def leads (c : Course) (prospects : List Prospect) (company : List Company) (b : Beginning)
    (next : List Nat) : List Lead :=
  let found := next.filterMap fun j => do
    let stage ← c.stages[j]?
    if b.visited.contains stage.link.sink then none
    else
      let weights ← prospects.mapM (·.weights.getD j none)
      let rest ← prospects.mapM fun p => (p.outlook.getD (b.length + 1) #[]).getD j none
      let costs := addEach b.costs weights
      return ⟨List.zipWith Company.bound company (addEach costs rest), j,
        ⟨stage.link :: b.links, b.length + 1, stage.link.sink :: b.visited, costs⟩⟩
  found.mergeSort fun x y => !(y.bounds < x.bounds)

/-- Try all ways to go on, of which each may improve the best choice known.  The number bounds how
many links can follow. -/
def explore (p : Problem) (c : Course) (prospects : List Prospect) (company : List Company)
    (base : List Int) (finish : List Link → Option Found → Option Found) :
    Nat → Beginning → List Nat → Option Found → Option Found
  | 0, _, _, best => best
  | more + 1, b, next, best =>
    (leads c prospects company b next).foldl (fun best lead =>
      if !p.isPromising best (addEach base lead.bounds) then best
      else if c.isLast.getD lead.stage false then finish lead.beginning.links.reverse best
      else
        explore p c prospects company base finish more lead.beginning (c.next.getD lead.stage [])
          best) best

/-- Try all paths of a flow. -/
def tryPaths (p : Problem) (t : Candidate) (company : List Company) (base : List Int)
    (finish : List Link → Option Found → Option Found) (best : Option Found) : Option Found :=
  let course := t.1.course
  let finishOther (path : List Link) (best : Option Found) : Option Found :=
    if t.1.excluded == some (path.map (·.index)) then best else finish path best
  if t.1.isIdle then finishOther [] best
  else
    let start : Beginning := ⟨[], 0, [course.source], List.replicate p.measures.length 0⟩
    explore p course t.2 company base finishOther course.most start course.first best

/-- How urgent it is to route a flow. -/
structure Urgency where
  /-- What congestion costs the flow. -/
  cost : Int
  /-- The number of its cheapest paths. -/
  ways : Nat

/-- How urgent it is to route a flow, by the first measure. -/
def urgency (t : Candidate) : Urgency :=
  match t.2, t.1.least with
  | prospect :: _, least :: _ =>
    ⟨prospect.least + prospect.surcharge - least,
      t.1.course.countCheapest prospect.weights prospect.outlook⟩
  | _, _ => ⟨0, 0⟩

/-- A flow that congestion costs more is more urgent, and then one that has fewer cheapest paths. -/
def Urgency.exceeds (a b : Urgency) : Bool :=
  b.cost < a.cost || (b.cost == a.cost && a.ways < b.ways)

/-- The flow to be routed before others: one that is not to take some path, and otherwise the most
urgent one. -/
def pick : List Candidate → Option (Candidate × List Candidate)
  | [] => none
  | t :: rest =>
    match pick rest with
    | none => some (t, [])
    | some (u, others) =>
      if t.1.excluded.isNone && (u.1.excluded.isSome || (urgency u).exceeds (urgency t)) then
        some (u, t :: others)
      else some (t, rest)

/-- The best choice that completes an attempt, if it is better than the best known, which
otherwise stays.  The number is that of the flows to be routed. -/
def complete (p : Problem) : Nat → List Task → Attempt → Option Found → Option Found
  | 0, _, a, best =>
    let bounds := addEach a.costs (p.congestionOf [] a.loads)
    if p.isPromising best bounds then
      let inOrder := a.chosen.mergeSort fun x y => x.1 ≤ y.1
      some ⟨bounds.headD 0, inOrder.map (·.2)⟩
    else best
  | more + 1, tasks, a, best =>
    match p.survey best tasks a with
    | none => best
    | some s =>
      match pick s.candidates with
      | none => best
      | some (t, others) =>
        let company := p.companyOf a.loads s.affordable others (t.2.map (·.least))
        p.tryPaths t company (addEach s.prior (p.leastOfCandidates others))
          (fun path best => complete p more (others.map (·.1)) (a.add t.1 path) best) best

/-- The attempt to begin with. -/
def start (p : Problem) : Attempt where
  chosen := []
  loads := Array.replicate p.numLinks 0
  costs := List.replicate p.measures.length 0

/-- A choice within the limits that makes the first measure least, if there is any within them. -/
def best (p : Problem) : Option Found :=
  p.tasks.bind fun tasks => p.complete tasks.length tasks p.start none

/-! ### Settled paths -/

/-- The flows, of which one is not to take a path. -/
def avoiding (tasks : List Task) (flow : Nat) (path : List Link) : List Task :=
  tasks.map fun t =>
    if t.flow == flow then { t with excluded := some (path.map (·.index)) } else t

/-- No choice that is as good as a best one has another path for a flow. -/
def isSettled (p : Problem) (b : Found) (flow : Nat) (path : List Link) : Bool :=
  let p := { p with floor := some b.value }
  let tasks := avoiding (p.tasks.getD []) flow path
  match p.complete tasks.length tasks p.start (some ⟨b.value + 1, []⟩) with
  | none => true
  | some other => b.value < other.value

/-- The paths of a best choice; nothing for a flow that has another path in a choice as good. -/
def settled (p : Problem) (b : Found) : List (Option (List Link)) :=
  b.paths.zipIdx.map fun (path, flow) => if p.isSettled b flow path then some path else none

end Problem

end NocRouting.Search
