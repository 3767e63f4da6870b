import NocRouting.Model.Build
import Std.Data.HashMap

/-!
# The course of a flow

A path of a flow leads from its source to its sink, visits no router twice, takes no illegal turn,
and its links make up the displacement between its ends.  The links on the way of a flow, each with
the displacement made so far, are the stages of its course.  Every path is a sequence of stages, of
which each can follow the one before.

A sequence of stages need not be a path, since it can come back to a router.  But what the cheapest
sequence costs, a path costs at least: that is what `Course.outlook` tells for every stage.

* `Course.make` is the course of a flow.
* `Course.outlook` is the least cost of going on from a stage.
-/

namespace NocRouting.Search

-- Empty sums are the `0` of core, whatever a reader of this module has loaded besides.
attribute [local instance (2000)] Zero.ofOfNat0

/-- A link on the way of a flow, with the displacement made once it has been travelled. -/
structure Stage where
  link : Link
  /-- The links travelled eastwards less those travelled westwards. -/
  east : Int
  /-- The links travelled northwards less those travelled southwards. -/
  north : Int

namespace Stage

/-- What a link adds to the displacement along an axis. -/
def step (l : Link) (forwards backwards : Direction) : Int :=
  if l.direction == some forwards then 1 else if l.direction == some backwards then -1 else 0

/-- The stage of a link that follows a displacement. -/
def of (east north : Int) (l : Link) : Stage :=
  ⟨l, east + step l .east .west, north + step l .north .south⟩

/-- A stage is known by its link and its displacement. -/
def key (s : Stage) : Nat × Int × Int := (s.link.index, s.east, s.north)

end Stage

/-- The stages on the way of a flow. -/
structure Course where
  source : Nat
  sink : Nat
  /-- The stages, by number. -/
  stages : Array Stage
  /-- For each stage, the numbers of those that can follow. -/
  next : Array (List Nat)
  /-- The stages that can come first. -/
  first : List Nat
  /-- For each stage, whether the flow has arrived. -/
  isLast : Array Bool
  /-- The greatest number of links of a path. -/
  most : Nat

namespace Course

/-! ### Finding the stages -/

/-- What a flow can do at a router. -/
structure Rules where
  /-- The links that leave each router. -/
  outgoing : Array (List Link)
  /-- The turns that are legal. -/
  turnModel : TurnModel
  source : Nat
  sink : Nat

/-- The stages that can follow a stage. -/
def Rules.after (r : Rules) (s : Stage) : List Stage :=
  if s.link.sink = r.sink then []
  else
    ((r.outgoing.getD s.link.sink []).filter fun l =>
      l.sink != r.source && !r.turnModel.forbids s.link l).map (.of s.east s.north)

/-- The stages that can come first. -/
def Rules.atSource (r : Rules) : List Stage :=
  ((r.outgoing.getD r.source []).filter (·.sink != r.source)).map (.of 0 0)

/-- The stages found so far. -/
structure Found where
  /-- The stages, by number. -/
  stages : Array Stage
  /-- The stages that follow each of those that were looked at. -/
  next : Array (List Nat)
  /-- The numbers of the stages. -/
  numbers : Std.HashMap (Nat × Int × Int) Nat

namespace Found

/-- Add a stage, unless it is known: its number. -/
def add (f : Found) (s : Stage) : Found × Nat :=
  match f.numbers[s.key]? with
  | some i => (f, i)
  | none =>
    let i := f.stages.size
    ({ f with stages := f.stages.push s, numbers := f.numbers.insert s.key i }, i)

/-- Add stages one after the other: their numbers. -/
def addAll (f : Found) (stages : List Stage) : Found × List Nat :=
  stages.foldl (fun (f, numbers) s =>
    let (f, i) := f.add s
    (f, numbers ++ [i])) (f, [])

/-- Look at the stages that were not looked at yet, and find those that follow. -/
def lookOn (r : Rules) (f : Found) : Found :=
  (f.stages.toList.drop f.next.size).foldl (fun f s =>
    let (f, numbers) := f.addAll (r.after s)
    { f with next := f.next.push numbers }) f

end Found

/-- The course of a flow from one router to another. -/
def make (t : Topology) (m : TurnModel) (source sink : Nat) (east north : Int) : Course :=
  let most := t.routers.length - 1
  let rules : Rules := ⟨(t.routers.map fun r => t.outgoing r.index).toArray, m, source, sink⟩
  let (start, first) := Found.addAll ⟨#[], #[], ∅⟩ rules.atSource
  let found := (List.range most).foldl (fun f _ => f.lookOn rules) start
  { source := source
    sink := sink
    stages := found.stages
    next := found.next
    first := first
    isLast := found.stages.map fun s => s.link.sink == sink && s.east == east && s.north == north
    most := most }

/-! ### Costs of going on -/

/-- The lesser of two costs, where there may be none. -/
def least? : Option Int → Option Int → Option Int
  | some a, some b => some (min a b)
  | none, b => b
  | a, none => a

/-- The sum of two costs, if there are both. -/
def both? (a b : Option Int) : Option Int :=
  a.bind fun a => b.map (a + ·)

/-- The least cost of going on from each stage, by the number of links travelled so far.  It counts
the weights of the links to come, of which one without a weight is not to be taken, and something at
the end that depends on the number of all links; there is none where the flow cannot arrive. -/
def outlook (c : Course) (weights : Array (Option Int)) (ending : Nat → Int) :
    Array (Array (Option Int)) :=
  let arrive (length i : Nat) : Option Int :=
    if c.isLast.getD i false then some (ending length) else none
  let numbers := Array.range c.stages.size
  let last := numbers.map (arrive c.most)
  let layers := (List.range c.most).foldr (fun length later =>
    let after := later.headD last
    numbers.map (fun i =>
      (c.next.getD i []).foldl (fun least j =>
        least? least (both? (weights.getD j none) (after.getD j none))) (arrive length i)) ::
      later) [last]
  layers.toArray

/-- The weights of the stages, given those of the links. -/
def weighed (c : Course) (weight : Nat → Option Int) : Array (Option Int) :=
  c.stages.map fun s => weight s.link.index

/-- The least cost of a whole sequence of stages, if there is any. -/
def leastFrom (c : Course) (weights : Array (Option Int))
    (outlook : Array (Array (Option Int))) : Option Int :=
  let start := outlook.getD 1 #[]
  c.first.foldl (fun least j =>
    least? least (both? (weights.getD j none) (start.getD j none))) none

/-- Count some more ways to a stage. -/
def addWays (stage ways : Nat) : List (Nat × Nat) → List (Nat × Nat)
  | [] => [(stage, ways)]
  | (i, n) :: rest =>
    if i = stage then (i, n + ways) :: rest else (i, n) :: addWays stage ways rest

/-- The number of sequences of stages with the least cost. -/
def countCheapest (c : Course) (weights : Array (Option Int))
    (outlook : Array (Array (Option Int))) : Nat :=
  let cost (length i : Nat) : Option Int := (outlook.getD length #[]).getD i none
  let onward (length : Nat) (least : Option Int) (next : List Nat) : List Nat :=
    next.filter fun j => least.isSome && both? (weights.getD j none) (cost length j) == least
  let start := (onward 1 (c.leastFrom weights outlook) c.first).map (·, 1)
  let (_, count) := (List.range c.most).foldl (fun (layer, count) i =>
    let arrived := (layer.filter fun (i, _) => c.isLast.getD i false).map (·.2)
    let following := layer.foldl (fun following (j, ways) =>
      (onward (i + 2) (cost (i + 1) j) (c.next.getD j [])).foldl
        (fun following k => addWays k ways following) following) []
    (following, count + arrived.sum)) (start, 0)
  count

end Course

end NocRouting.Search
