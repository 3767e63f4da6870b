import NocRouting.Topology.Turns
import NocRouting.Traffic

/-!
# What is to be routed

A context is a snapshot of everything that routing depends on: the network, the traffic, where the
router blocks are placed, and the turn model.

* `Context.blockRouter` is the router that a block is placed on.
* `Context.flowRouters` are the two ends of a flow.
-/

namespace NocRouting

/-- The locations of router blocks.  No two blocks are the same. -/
structure Placement where
  /-- The blocks and their locations, in the order in which the blocks are first mentioned. -/
  entries : List (Value × Value)

namespace Placement

/-- The entry of a block, if there is one, with another location; a new entry otherwise. -/
def insert (block location : Value) : List (Value × Value) → List (Value × Value)
  | [] => [(block, location)]
  | (b, l) :: rest =>
    if b.same block then (b, location) :: rest else (b, l) :: insert block location rest

/-- The placement given by pairs, of which the last for a block counts. -/
def ofPairs (pairs : List (Value × Value)) : Except Fault Placement := do
  let entries ← pairs.foldlM (fun entries (block, location) => do
    return insert (← block.asKey) location entries) []
  return ⟨entries⟩

def location (p : Placement) (block : Value) : Except Fault Value := do
  let block ← block.asKey
  match p.entries.find? (·.1.same block) with
  | some (_, l) => return l
  | none => throw (.noEntry block)

end Placement

/-- Everything that routing depends on. -/
structure Context where
  topology : Topology
  flows : Traffic
  /-- Where the router blocks are. -/
  placement : Placement
  /-- Which turns are legal. -/
  turnModel : TurnModel

namespace Context

/-- The number of the router that a block is placed on. -/
def blockRouter (c : Context) (block : Value) : Except Fault Nat := do
  match c.placement.location block with
  | .error (.noEntry _) => throw (.configuration (.unplacedBlock block))
  | .error fault => throw fault
  | .ok location =>
    let location ← location.asMembers
    match c.topology.routerAt location with
    | .error (.noPosition _) => throw (.configuration (.misplacedBlock block location))
    | result => result

/-- The numbers of the routers that a flow leads from and to. -/
def flowRouters (c : Context) (f : Flow) : Except Fault (Nat × Nat) := do
  return (← c.blockRouter f.source, ← c.blockRouter f.sink)

end Context

end NocRouting
