import NocRouting.Arithmetic

/-!
# The grid of a device

A grid of cells, in layers, on which tiles are placed.  Tiles never overlap and never reach over the
edge; a placement that would is refused and changes nothing.

* `Grid.place` puts a tile on the grid.
* `Grid.cellAt` is what a cell holds, and `Grid.lookup` the same for a location given by a user.
* `Grid.tilesNamed` finds the tiles with a name, each once, in the order of `Grid.cells`.
-/

namespace NocRouting

/-- A tile type with the given footprint, which has at least one cell. -/
def TileType.make (name width height : Value) : Except Fault TileType := do
  let w ← width.asNumber
  if w.lt 1 then throw (.refused .tileTooSmall)
  let h ← height.asNumber
  if h.lt 1 then throw (.refused .tileTooSmall)
  return ⟨name, width, height⟩

structure PlacedTile where
  type : TileType
  x : Number
  y : Number
  layer : Value

/-- The grid of a device.  Its size is taken as described, and is only looked at where it
matters. -/
structure Grid where
  width : Value
  height : Value
  layers : Value
  /-- The tiles, in the order in which they were placed.  No two cover the same cell. -/
  tiles : List PlacedTile

/-- A tile found on a grid. -/
structure TileSite where
  /-- The cell at its bottom left. -/
  position : Position
  /-- The column of the middle of its footprint. -/
  centreX : Float
  /-- The row of the middle of its footprint. -/
  centreY : Float

/-- The numbers from zero up to, but not including, a whole number. -/
def Value.below? : Value → Option (List Number)
  | .bool b => some (if b then [0] else [])
  | .number (.int n) => some ((List.range n.toNat).map fun (k : Nat) => .int k)
  | _ => none

namespace PlacedTile

/-- How far a coordinate is from the first of some consecutive ones, if it is one of them. -/
def offset? (first : Number) (size : Value) (coordinate : Number) : Option Number :=
  match first, size, coordinate with
  | .int a, .number (.int n), .int b => if a ≤ b ∧ b - a < n then some (.int (b - a)) else none
  | _, _, _ =>
    (size.below?.getD []).findSome? fun d =>
      if (first + d).same coordinate then some (first + d - first) else none

/-- What a cell under the tile holds; `none` for any other cell. -/
def cellAt? (t : PlacedTile) (p : Position) : Option TileCell := do
  if t.layer.same p.layer then
    let dx ← offset? t.x t.type.width (← p.x.number?)
    let dy ← offset? t.y t.type.height (← p.y.number?)
    return ⟨t.type, dx, dy⟩
  else none

/-- As many consecutive coordinates as a value says.  Far from zero, doubles next to each other
can be the same; each is given once. -/
def coordinates? (first : Number) (size : Value) : Option (List Number) := do
  return (← size.below?).foldr (fun d later =>
    let c := first + d
    if later.head?.any c.same then c :: later.drop 1 else c :: later) []

/-- The cells under the tile, column by column; `none` if its size is not whole. -/
def cells? (t : PlacedTile) : Option (List Position) := do
  let columns ← coordinates? t.x t.type.width
  let rows ← coordinates? t.y t.type.height
  return columns.flatMap fun x => rows.map fun y => ⟨.number x, .number y, t.layer⟩

end PlacedTile

namespace Grid

def bare (width height layers : Value) : Grid :=
  ⟨width, height, layers, []⟩

/-- The coordinates below a bound. -/
def coordinates (bound : Value) : Except Fault (List Number) :=
  match bound.below? with
  | some ns => .ok ns
  | none => .error .mismatch

/-- A coordinate lies between zero and a bound. -/
def isInside (v bound : Value) : Except Fault Bool := do
  let n ← v.asNumber
  if Number.le 0 n then return n.lt (← bound.asNumber) else return false

/-- The cells from a coordinate on, as many as given, lie between zero and a bound. -/
def isSpanInside (v : Value) (size : Number) (bound : Value) : Except Fault Bool := do
  let n ← v.asNumber
  if Number.le 0 n then
    return (← Number.meeting (· + ·) n size).le (← bound.asNumber)
  else return false

/-- A tile at a place lies within the grid. -/
def fits (g : Grid) (t : TileType) (x y layer : Value) : Except Fault Bool := do
  if !(← isSpanInside x t.columns g.width) then return false
  if !(← isSpanInside y t.rows g.height) then return false
  isInside layer g.layers

/-- What a cell under a tile holds; `none` for a cell without a tile. -/
def occupant? (g : Grid) (p : Position) : Option TileCell :=
  g.tiles.findSome? (·.cellAt? p)

def cellAt (g : Grid) (p : Position) : TileCell :=
  (g.occupant? p).getD .empty

/-- Put a tile on the grid, with its origin at a place. -/
def place (g : Grid) (t : TileType) (x y layer : Value) : Except Fault Grid := do
  unless ← g.fits t x y layer do
    throw (.refused (.tileOutside t [x, y, layer]))
  let tile : PlacedTile := ⟨t, ← x.asNumber, ← y.asNumber, layer⟩
  match tile.cells? with
  | none => throw .mismatch
  | some cells =>
    match cells.findSome? fun c => (g.occupant? c).map (c, ·) with
    | some (c, earlier) => throw (.refused (.tileOverlap t [x, y, layer] earlier.type c))
    | none => return { g with tiles := g.tiles ++ [tile] }

/-- The cell at a location of the grid.  A location of two coordinates is one of the lowest layer. -/
def locate (g : Grid) (location : List Value) : Except Fault Position :=
  match location with
  | [x, y] => within x y (.int 0)
  | [x, y, layer] => within x y layer
  | [] => .error (.refused (.tooFewMembers 3 0))
  | [_] => .error (.refused (.tooFewMembers 3 1))
  | _ => .error (.refused (.tooManyMembers 3))
where
  /-- The cell with the given coordinates. -/
  within (x y layer : Value) : Except Fault Position := do
    if ← isInside x g.width then
      if ← isInside y g.height then
        if ← isInside layer g.layers then
          return ⟨x, y, layer⟩
    throw (.range (.location location))

/-- What the cell at a location holds. -/
def lookup (g : Grid) (location : List Value) : Except Fault TileCell := do
  return g.cellAt (← g.locate location)

/-- All cells: layer by layer, and column by column within each. -/
def cells (g : Grid) : Except Fault (List Position) := do
  let layers ← (← coordinates g.layers).mapM fun layer => do
    let columns ← (← coordinates g.width).mapM fun x => do
      let rows ← coordinates g.height
      return rows.map fun y => Position.mk (.number x) (.number y) (.number layer)
    return columns.flatten
  return layers.flatten

/-- The middle of some consecutive coordinates. -/
def middle (first : Value) (size : Number) : Float :=
  (size - 1).toFloat / 2.0 + (first.number?.getD 0).toFloat

/-- The tile of a type whose origin is a cell. -/
def siteOf (t : TileType) (p : Position) : TileSite :=
  ⟨p, middle p.x t.columns, middle p.y t.rows⟩

/-- The tiles with a name, in the order of their origins in `cells`. -/
def tilesNamed (g : Grid) (name : Value) : Except Fault (List TileSite) := do
  return (← g.cells).filterMap fun p =>
    let c := g.cellAt p
    if c.type.name.eqv name && c.isOrigin then some (siteOf c.type p) else none

end Grid

end NocRouting
