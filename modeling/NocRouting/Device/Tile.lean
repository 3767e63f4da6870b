import NocRouting.Position

/-!
# Tiles

A tile type has a name and a footprint, which is a rectangle of cells.  Every cell of a device shows
the type of the tile that covers it and how far the cell is from the tile's origin, the cell at its
bottom left.
-/

namespace NocRouting

structure TileType where
  /-- The name in the description of the architecture. -/
  name : Value
  /-- The number of cells spanned eastwards. -/
  width : Value
  /-- The number of cells spanned northwards. -/
  height : Value

/-- The type of every cell that has not been given a tile. -/
def TileType.empty : TileType where
  name := .text "EMPTY"
  width := .int 1
  height := .int 1

/-- The number of columns that a tile of the type spans. -/
def TileType.columns (t : TileType) : Number :=
  t.width.number?.getD 1

def TileType.rows (t : TileType) : Number :=
  t.height.number?.getD 1

def TileType.text (t : TileType) : Text :=
  "<PhysicalTileType " ++ t.name.quoted ++ " " ++ t.width.plain ++ "x" ++ t.height.plain ++ ">"

/-- What a single cell holds. -/
structure TileCell where
  type : TileType
  /-- The distance eastwards from the tile's origin. -/
  widthOffset : Number
  /-- The distance northwards from the tile's origin. -/
  heightOffset : Number

/-- A cell without a tile. -/
def TileCell.empty : TileCell where
  type := .empty
  widthOffset := 0
  heightOffset := 0

/-- The cell is the origin of its tile. -/
def TileCell.isOrigin (c : TileCell) : Bool :=
  c.widthOffset.isZero && c.heightOffset.isZero

end NocRouting
