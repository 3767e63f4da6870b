import NocRouting.Device.Grid
import NocRouting.Steps
import NocRouting.Table

/-!
# The fabric of a device

The grid of a device is kept as a table of the cells under tiles.  A tile is placed cell by cell,
after all its cells have been looked at.

* `Fabric.place` puts a tile on a fabric in steps.
* `Fabric.cellAt`, `Fabric.lookup` and `Fabric.tilesNamed` read the table.
* `Grid.fabric` is a grid as it should be kept.
-/

namespace NocRouting

/-- A grid with a table of its cells. -/
structure Fabric where
  width : Value
  height : Value
  layers : Value
  /-- What the cells under tiles hold. -/
  cells : Table Position TileCell

namespace Fabric

def bare (width height layers : Value) : Fabric :=
  ⟨width, height, layers, []⟩

/-- The grid without its tiles. -/
def frame (f : Fabric) : Grid :=
  .bare f.width f.height f.layers

/-! ### Placing -/

/-- A tile at a place lies within the grid. -/
def requireInside (f : Fabric) (t : TileType) (x y layer : Value) : Except Fault Unit := do
  unless ← f.frame.fits t x y layer do
    throw (.refused (.tileOutside t [x, y, layer]))

/-- The columns and rows of the cells under a tile, column by column. -/
def footprint (t : TileType) (left bottom : Number) : Except Fault (List (Number × Number)) := do
  let columns ← Grid.coordinates t.width
  let rows ← Grid.coordinates t.height
  return columns.flatMap fun dx => rows.map fun dy => (left + dx, bottom + dy)

/-- The cell of a layer in a column and a row. -/
def cell (layer : Value) (c : Number × Number) : Position :=
  ⟨.number c.1, .number c.2, layer⟩

/-- No tile covers the cell, which one at a place is to cover. -/
def requireFree (f : Fabric) (t : TileType) (place : List Value) (c : Position) :
    Except Fault Unit :=
  match f.cells.find c with
  | some earlier => .error (.refused (.tileOverlap t place earlier.type c))
  | none => .ok ()

/-- Put a tile on the grid, with its origin at a place. -/
def place (t : TileType) (x y layer : Value) : Steps Fabric Unit := do
  (← get).requireInside t x y layer
  let left ← x.asNumber
  let bottom ← y.asNumber
  let covered ← footprint t left bottom
  forM covered fun c => do (← get).requireFree t [x, y, layer] (cell layer c)
  forM covered fun c => modify fun f =>
    { f with cells := f.cells.set (cell layer c) ⟨t, c.1 - left, c.2 - bottom⟩ }

/-! ### Reading -/

def cellAt (f : Fabric) (p : Position) : TileCell :=
  (f.cells.find p).getD .empty

/-- What the cell at a location holds. -/
def lookup (f : Fabric) (location : List Value) : Except Fault TileCell := do
  return f.cellAt (← f.frame.locate location)

/-- The tiles with a name, in the order of their origins. -/
def tilesNamed (f : Fabric) (name : Value) : Except Fault (List TileSite) := do
  let sites ← (← f.frame.cells).mapM fun p => do
    let c ← f.lookup p.toValues
    return if c.type.name.eqv name && c.isOrigin then some (Grid.siteOf c.type p) else none
  return sites.filterMap id

end Fabric

/-- The cells under a tile with what they hold, column by column. -/
def PlacedTile.entries (t : PlacedTile) : Table Position TileCell :=
  ((coordinates? t.x t.type.width).getD []).flatMap fun x =>
    ((coordinates? t.y t.type.height).getD []).map fun y =>
      (⟨.number x, .number y, t.layer⟩, ⟨t.type, x - t.x, y - t.y⟩)

/-- A grid as it should be kept. -/
def Grid.fabric (g : Grid) : Fabric where
  width := g.width
  height := g.height
  layers := g.layers
  cells := g.tiles.flatMap PlacedTile.entries

end NocRouting
