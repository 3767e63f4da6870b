import NocRouting.Context
import NocRouting.Realisation

/-!
# Problem descriptions

A problem is described by an object with the fields `grid`, `architecture`, `placement` and `flows`.
`Description.ofValue` takes such an object apart, field by field in the order in which the parts are
needed, and fails with the first fault.

* A field that is missing is an inconsistency; some fields have a default instead.
* Tiles with the same name and size share a type.
* `Description.context` is what is to be routed under a turn model.
-/

namespace NocRouting

namespace Value

/-- A field of an object, which has to be there. -/
def entry (v : Value) (name : String) : Except Fault Value :=
  match v with
  | .object fields =>
    match fields.find? (·.1 == Text.ofString name) with
    | some (_, w) => .ok w
    | none => .error (.configuration (.missingField (.text name)))
  | _ => .error .mismatch

/-- A field of an object, or a default. -/
def entryOr (v : Value) (name : String) (default : Value) : Value :=
  match v with
  | .object fields =>
    match fields.find? (·.1 == Text.ofString name) with
    | some (_, w) => w
    | none => default
  | _ => default

end Value

/-- A problem as described. -/
structure Description where
  grid : Grid
  /-- The declared network. -/
  architecture : Architecture
  placement : Placement
  flows : Traffic

namespace Description

/-- A tile type with the name and size it was first asked for. -/
structure KnownType where
  /-- Name, width and height. -/
  key : List Value
  type : TileType

/-- The tile type with a name and size: the one known under them, or a new one. -/
def tileType (known : List KnownType) (name width height : Value) :
    Except Fault (List KnownType × TileType) := do
  let key ← [name, width, height].mapM (·.asKey)
  match known.find? fun k => (Value.list k.key).same (.list key) with
  | some k => return (known, k.type)
  | none =>
    let t ← TileType.make name width height
    return (known ++ [⟨key, t⟩], t)

/-- Put described tiles on a grid, one after the other. -/
def placeTiles : List Value → List KnownType → Grid → Except Fault Grid
  | [], _, g => return g
  | tile :: rest, known, g => do
    let name ← tile.entry "name"
    let (known, t) ←
      tileType known name (tile.entryOr "width" (.int 1)) (tile.entryOr "height" (.int 1))
    let x ← tile.entry "x"
    let y ← tile.entry "y"
    let g ← g.place t x y (tile.entryOr "layer" (.int 0))
    placeTiles rest known g

def gridOf (v : Value) : Except Fault Grid := do
  let width ← v.entry "width"
  let height ← v.entry "height"
  let tiles ← (v.entryOr "tiles" (.list [])).asMembers
  placeTiles tiles [] (.bare width height (v.entryOr "layers" (.int 1)))

def routerOf (v : Value) : Except Fault LogicalRouter := do
  let id ← v.entry "id"
  let x ← v.entry "x"
  let y ← v.entry "y"
  LogicalRouter.make id x y (v.entryOr "connections" (.list [])) (v.entryOr "layer" (.int 0))

def architectureOf (v : Value) : Except Fault Architecture := do
  let tile ← v.entry "router_tile"
  let bandwidth ← v.entry "link_bandwidth"
  let linkLatency ← v.entry "link_latency"
  let routerLatency ← v.entry "router_latency"
  let routers ← (← (← v.entry "routers").asMembers).mapM routerOf
  Architecture.make tile bandwidth linkLatency routerLatency routers

/-- The described placement, which is an object. -/
def placementOf (v : Value) : Except Fault Placement := do
  match v with
  | .object fields =>
    let entries ← fields.mapM fun (block, location) => do
      return (Value.text block, Value.list (← location.asMembers))
    return ⟨entries⟩
  | _ => throw .unsupported

def flowOf (v : Value) : Except Fault FlowRequest := do
  return {
    source := ← v.entry "source"
    sink := ← v.entry "sink"
    bandwidth := ← v.entry "bandwidth"
    maxLatency := v.entryOr "max_latency" .null
    name := v.entryOr "name" .null
    route := v.entryOr "route" (.list []) }

def flowsOf (v : Value) : Except Fault Traffic := do
  (← v.asMembers).foldlM (fun t f => do return (← t.add (← flowOf f)).1) []

/-- The problem that an object describes. -/
def ofValue (v : Value) : Except Fault Description := do
  let grid ← gridOf (← v.entry "grid")
  let architecture ← architectureOf (← v.entry "architecture")
  let placement ← placementOf (← v.entry "placement")
  let flows ← flowsOf (← v.entry "flows")
  return ⟨grid, architecture, placement, flows⟩

/-- What is to be routed. -/
def context (d : Description) (m : TurnModel) : Except Fault Context := do
  return ⟨← Topology.realise d.architecture d.grid, d.flows, d.placement, m⟩

end Description

end NocRouting
