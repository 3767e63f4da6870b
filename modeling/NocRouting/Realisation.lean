import NocRouting.Architecture
import NocRouting.Block
import NocRouting.Device.Grid
import NocRouting.Log
import NocRouting.Number.Reading
import NocRouting.Topology.Basic

/-!
# Networks on a device

The logical routers of an architecture are put on the router tiles of a device.  Every router goes
to the tile nearest to its intended position, which must be clearly nearer than any other and must
not have been taken; all tiles have to be used.  Then the declared connections become links.

* `Realisation.choose` finds the tile for a router.
* `Topology.realise` is the network of an architecture on a grid, or the inconsistency between them.
-/

namespace NocRouting

/-- The double that a value gives for an intended coordinate.  Nothing at all gives `nan`, and a
text is read as a number. -/
def Value.coordinate (v : Value) : Except Fault Float :=
  match v with
  | .null => .ok (0.0 / 0.0)
  | .text s =>
    match double? s with
    | some x => .ok x
    | none => .error (.refused (.notNumber s))
  | v => v.asFloat

namespace Realisation

/-! ### Distances -/

/-- The middles of some tiles, a row for each. -/
def centres (tiles : List TileSite) : Block Float where
  sizes := [tiles.length, 3]
  figures := (tiles.flatMap fun t =>
    [t.centreX, t.centreY, (t.position.layer.number?.getD 0).toFloat]).toArray

/-- The intended position of a router: a row of three figures, or more if its coordinates are
lists. -/
def intended (r : LogicalRouter) : Except Fault (Block Float) := do
  (← Block.ofValues [r.x, r.y, r.layer]).mapM (·.coordinate)

/-- The distances of tiles from the intended position of a router. -/
def distances (tiles : List TileSite) (r : LogicalRouter) : Except Fault (Block Float) := do
  let apart := (← (centres tiles).zip (← intended r)).map fun (a, b) => a - b
  return ((apart.map fun d => d * d).sumRows).map (·.sqrt)

/-! ### The nearest tile -/

/-- A double ranks before another as the minimum: it is less, or it is `nan` and the other is
not. -/
def isLower (a b : Float) : Bool :=
  a < b || (a.isNaN && !b.isNaN)

/-- The number of the first of the least doubles; one that is `nan` counts as the least. -/
def leastIndex? : List Float → Option Nat
  | [] => none
  | x :: rest =>
    match leastIndex? rest with
    | some i => if isLower (rest.getD i 0.0) x then some (i + 1) else some 0
    | none => some 0

/-- A distance is as good as the least one: it differs by no more than a billionth of it. -/
def ties (d least : Float) : Bool :=
  d == least || ((d - least).abs <= 1e-9 * least.abs && least.isFinite)

/-- The numbers of the distances that are as good as the one in the same place of a row. -/
def tieIndices (ds row : Block Float) : List Nat :=
  (Block.places ds.sizes).zipIdx.filterMap fun (place, i) =>
    if ties (ds.figureAt place) (row.figureAt place) then some i else none

/-- The tile with a number. -/
def tileAt (tiles : List TileSite) (i : Nat) : Except Fault TileSite :=
  match tiles[i]? with
  | some t => .ok t
  | none => .error (.range .index)

/-- The tile for a router: the nearest to its intended position. -/
def choose (tiles : List TileSite) (r : LogicalRouter) : Except Fault TileSite := do
  let ds ← distances tiles r
  match leastIndex? ds.figures.toList with
  | none => throw (.refused .noLeast)
  | some nearest =>
    match tieIndices ds (← ds.row nearest) with
    | i :: j :: _ =>
      let a ← tileAt tiles i
      let b ← tileAt tiles j
      throw (.configuration (.equidistant r.id a.position b.position))
    | _ => tileAt tiles nearest

/-- The identifier of the router that has taken a tile. -/
def holder? (taken : List (Position × Value)) (tile : TileSite) : Option Value :=
  (taken.find? (·.1.same tile.position)).map (·.2)

/-- Put the remaining routers on tiles, given the tiles taken by the routers before them. -/
def addRouters (tiles : List TileSite) :
    List LogicalRouter → List (Position × Value) → Topology → Except Fault Topology
  | [], _, t => return t
  | r :: rest, taken, t => do
    let tile ← choose tiles r
    if let some earlier := holder? taken tile then
      throw (.configuration (.tileTaken r.id earlier tile.position))
    let (t, _) ← t.addRouter r.id tile.position
    addRouters tiles rest ((tile.position, r.id) :: taken) t

/-- Create the links of a router. -/
def addLinksOf (t : Topology) (r : LogicalRouter) : Except Fault Topology := do
  let source ← t.routerWithId r.id
  r.connections.foldlM (fun t id => do
    let (t, _) ← t.addLink (.int source) (.int (← t.routerWithId id))
    return t) t

/-- There are as many routers as router tiles, and at least one tile. -/
def checkCounts (a : Architecture) (tiles : List TileSite) : Except Fault Unit := do
  let declared := a.routers.length
  let available := tiles.length
  if available = 0 then throw (.configuration (.noRouterTiles a.routerTile))
  if available < declared then throw (.configuration (.tooManyRouters declared available))
  if declared < available then throw (.configuration (.tooFewRouters declared available))

end Realisation

/-- The finished network of an architecture on a device. -/
def Topology.realise (a : Architecture) (g : Grid) : Except Fault Topology := do
  let tiles ← g.tilesNamed a.routerTile
  Realisation.checkCounts a tiles
  let t := Topology.bare a.linkBandwidth a.linkLatency a.routerLatency
  let t ← Realisation.addRouters tiles a.routers [] t
  let t ← a.routers.foldlM Realisation.addLinksOf t
  t.finish

/-- The note on a network that was realised. -/
def Topology.realisedNote (t : Topology) : LogEntry where
  level := .info
  message := "Built NoC with " ++ toString t.routers.length ++ " routers and " ++
    toString t.links.length ++ " links."

end NocRouting
