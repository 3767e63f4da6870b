import NocRouting.Device.Fabric
import NocRouting.Proofs.Device.Discovery
import NocRouting.Proofs.Identity

/-!
# Tiles are written cell by cell

A tile is placed by writing what it shows into the table of cells, one cell after the other, after
all of its cells have been found free.  So the table holds what the tiles show that have been placed,
nothing of a tile that has been refused, and never a part of one.

* `TileRequest.IsWhole.exists_footprint` says which cells are looked at and written.
* `Grid.find_fabric` says that the table tells what the tiles tell.
* `Grid.fabric_put` says that placing a tile in steps is placing it at once.
-/

namespace NocRouting

/-! ### What a tile writes -/

namespace TileRequest

variable {r : TileRequest} (hr : r.IsWhole)
include hr

/-- The cells that are looked at are those under the tile, and its entries are written there. -/
lemma IsWhole.exists_footprint : ∃ covered,
    Fabric.footprint r.type (.int r.x.whole) (.int r.y.whole) = .ok covered ∧
      r.tile.cells? = some (covered.map (Fabric.cell r.layer)) ∧
      r.tile.entries = covered.map fun c =>
        (Fabric.cell r.layer c, ⟨r.type, c.1 - .int r.x.whole, c.2 - .int r.y.whole⟩) := by
  refine ⟨(List.range r.type.width.whole.toNat).flatMap fun (dx : Nat) =>
    (List.range r.type.height.whole.toNat).map fun (dy : Nat) =>
      (.int (r.x.whole + dx), .int (r.y.whole + dy)), ?_, ?_, ?_⟩
  · rw [Fabric.footprint, Grid.coordinates, Grid.coordinates, hr.width.below?_eq,
      hr.height.below?_eq]
    simp only [Except.ok_bind, List.flatMap_map, List.map_map]
    rfl
  · rw [PlacedTile.cells?, tile, PlacedTile.coordinates?_eq hr.width,
      PlacedTile.coordinates?_eq hr.height]
    simp only [Option.bind_eq_bind, Option.bind_some, List.map_flatMap, List.flatMap_map,
      List.map_map]
    rfl
  · rw [PlacedTile.entries, tile, PlacedTile.coordinates?_eq hr.width,
      PlacedTile.coordinates?_eq hr.height]
    simp only [Option.getD_some, List.map_flatMap, List.flatMap_map, List.map_map]
    rfl

/-- The entries of a tile are for the cells that it covers, with what they show. -/
lemma IsWhole.mem_entries {e : Position × TileCell} : e ∈ r.tile.entries ↔
    ∃ x y, r.Covers x y r.layer.whole ∧ (⟨.int x, .int y, r.layer⟩, r.shows x y) = e := by
  rw [PlacedTile.entries, tile, PlacedTile.coordinates?_eq hr.width,
    PlacedTile.coordinates?_eq hr.height]
  simp only [Option.getD_some, List.mem_flatMap, List.mem_map, List.mem_range,
    exists_exists_and_eq_and, Number.sub_int]
  constructor
  · rintro ⟨dx, hdx, dy, hdy, rfl⟩
    exact ⟨_, _, ⟨rfl, by omega, by omega, by omega, by omega⟩, rfl⟩
  · rintro ⟨x, y, h, rfl⟩
    obtain ⟨-, hleft, hright, hbottom, htop⟩ := h
    refine ⟨(x - r.x.whole).toNat, by omega, (y - r.y.whole).toNat, by omega, ?_⟩
    have hx : r.x.whole + (x - r.x.whole).toNat = x := by omega
    have hy : r.y.whole + (y - r.y.whole).toNat = y := by omega
    rw [hx, hy]
    rfl

/-- Cells of a layer are the same exactly if they are in the same column and row. -/
lemma IsWhole.same_cell {x y x' y' : Int} {layer : Value} (hl : layer.IsWhole) :
    Key.same (⟨.int x, .int y, r.layer⟩ : Position) ⟨.int x', .int y', layer⟩ = true ↔
      x = x' ∧ y = y' ∧ r.layer.whole = layer.whole := by
  show Position.same _ _ = true ↔ _
  rw [Position.same_eq_true, hr.layer.same_iff hl, Value.same_int_int, Value.same_int_int,
    beq_iff_eq, beq_iff_eq]

/-- No cell is written twice. -/
lemma IsWhole.entries_apart :
    r.tile.entries.Pairwise fun e e' => Key.same e.1 e'.1 = false := by
  have hne : ∀ {x y x' y' : Int}, x ≠ x' ∨ y ≠ y' →
      Key.same (⟨.int x, .int y, r.layer⟩ : Position) ⟨.int x', .int y', r.layer⟩ = false := by
    intro x y x' y' h
    rw [← Bool.not_eq_true, hr.same_cell hr.layer]
    omega
  rw [PlacedTile.entries, tile, PlacedTile.coordinates?_eq hr.width,
    PlacedTile.coordinates?_eq hr.height]
  simp only [Option.getD_some, List.pairwise_flatMap, List.pairwise_map, List.mem_map]
  refine ⟨?_, ?_⟩
  · rintro x ⟨dx, -, rfl⟩
    exact List.nodup_range.imp fun hy => hne (.inr (by omega))
  · refine List.nodup_range.imp fun hx => ?_
    rintro e ⟨y, ⟨dy, -, rfl⟩, rfl⟩ e' ⟨y', ⟨dy', -, rfl⟩, rfl⟩
    exact hne (.inl (by omega))

/-- What a tile has written under a cell is what it shows there. -/
lemma IsWhole.find_entries {x y : Int} {layer : Value} (hl : layer.IsWhole) :
    Table.find r.tile.entries ⟨.int x, .int y, layer⟩ = r.tile.cellAt? ⟨.int x, .int y, layer⟩ := by
  by_cases hcovers : r.Covers x y layer.whole
  · rw [hr.cellAt?_of_covers hl hcovers]
    have hkey : Key.same (⟨.int x, .int y, r.layer⟩ : Position) ⟨.int x, .int y, layer⟩ = true :=
      (hr.same_cell hl).2 ⟨rfl, rfl, hcovers.layer⟩
    have hmem : (⟨.int x, .int y, r.layer⟩, r.shows x y) ∈ r.tile.entries :=
      hr.mem_entries.2 ⟨x, y, hcovers.layer ▸ hcovers, rfl⟩
    obtain ⟨e, he⟩ : ∃ e, r.tile.entries.find? (fun e =>
        Key.same e.1 (⟨.int x, .int y, layer⟩ : Position)) = some e :=
      Option.isSome_iff_exists.1 (List.find?_isSome.2 ⟨_, hmem, hkey⟩)
    -- the entry that is found is for this cell
    obtain ⟨x', y', -, rfl⟩ := hr.mem_entries.1 (List.mem_of_find?_eq_some he)
    obtain ⟨rfl, rfl, -⟩ := (hr.same_cell hl).1
      (List.find?_some (p := fun e : Position × TileCell => Key.same e.1 _) he)
    rw [Table.find, he]
    rfl
  · rw [hr.cellAt?_of_not_covers hl hcovers, Table.find, Option.map_eq_none_iff,
      List.find?_eq_none]
    intro e he hsame
    obtain ⟨x', y', hcovers', rfl⟩ := hr.mem_entries.1 he
    obtain ⟨rfl, rfl, hlayer⟩ := (hr.same_cell hl).1 hsame
    exact hcovers (hlayer ▸ hcovers')

end TileRequest

/-! ### Loops -/

namespace Fabric

variable {f : Fabric}

/-- The cells are looked at until one is found that is not free. -/
lemma forM_requireFree (t : TileType) (place : List Value) (layer : Value)
    (covered : List (Number × Number)) :
    (forM covered fun c => do (← get).requireFree t place (cell layer c) : Steps Fabric Unit) f =
      match (covered.map (cell layer)).findSome? fun p => (f.cells.find p).map (p, ·) with
      | some (p, earlier) => .error (.refused (.tileOverlap t place earlier.type p)) f
      | none => .ok () f := by
  induction covered with
  | nil => rfl
  | cons c covered ih =>
    have hlook : (do (← get).requireFree t place (cell layer c) : Steps Fabric Unit) f =
        Steps.ofExcept (f.requireFree t place (cell layer c)) f := rfl
    rw [List.forM_cons, List.map_cons, List.findSome?_cons]
    cases hfound : f.cells.find (cell layer c) with
    | some earlier =>
      rw [requireFree, hfound] at hlook
      exact Steps.bind_of_error hlook _
    | none =>
      rw [requireFree, hfound] at hlook
      exact (Steps.bind_of_ok hlook _).trans ih

/-- The cells are written one after the other. -/
lemma forM_set (layer : Value) (held : Number × Number → TileCell)
    (covered : List (Number × Number)) :
    (forM covered fun c => modify fun f =>
        { f with cells := f.cells.set (cell layer c) (held c) } : Steps Fabric Unit) f =
      .ok () { f with cells := f.cells.setAll (covered.map fun c => (cell layer c, held c)) } := by
  induction covered generalizing f with
  | nil => rfl
  | cons c covered ih =>
    rw [List.forM_cons]
    exact ih

end Fabric

/-! ### Tables and tiles -/

namespace Grid

variable {g g' : Grid} {rs : List TileRequest} {r : TileRequest}

/-- The table tells what the tiles tell. -/
theorem find_fabric (h : g.IsFilled rs) {x y : Int} {layer : Value} (hl : layer.IsWhole) :
    g.fabric.cells.find ⟨.int x, .int y, layer⟩ = g.occupant? ⟨.int x, .int y, layer⟩ := by
  rw [fabric, occupant?, h.tiles, Table.find, List.find?_flatMap, List.findSome?_map,
    List.findSome?_map, List.map_findSome?]
  exact findSome?_congr fun r hr => (h.whole r hr).find_entries hl

/-- What the table holds under a cell of the grid is what the grid shows there. -/
lemma cellAt_fabric (h : g.IsFilled rs) (x y layer : Int) :
    g.fabric.cellAt (.ofInts x y layer) = g.cellAt (.ofInts x y layer) := by
  rw [Fabric.cellAt, find_fabric h (Value.isWhole_int layer)]
  rfl

/-- Looking at the cells in the table is looking at those of the tiles. -/
lemma findSome?_fabric (h : g.IsFilled rs) (hr : r.IsWhole) {cells : List Position}
    (hcells : r.tile.cells? = some cells) :
    (cells.findSome? fun p => (g.fabric.cells.find p).map (p, ·)) =
      cells.findSome? fun p => (g.occupant? p).map (p, ·) := by
  obtain ⟨cells', hcells', hmem⟩ := hr.exists_cells?
  obtain rfl := Option.some.inj (hcells.symm.trans hcells')
  refine findSome?_congr fun p hp => ?_
  obtain ⟨x, y, -, rfl⟩ := (hmem p).1 hp
  rw [find_fabric h hr.layer]

/-- The cells under a tile that have all been found free are new to the table. -/
lemma has_fabric (h : g.IsFilled rs) (hr : r.IsWhole) {cells : List Position}
    (hcells : r.tile.cells? = some cells)
    (hfree : (cells.findSome? fun p => (g.occupant? p).map (p, ·)) = none) :
    ∀ e ∈ r.tile.entries, g.fabric.cells.has e.1 = false := by
  intro e he
  obtain ⟨cells', hcells', hmem⟩ := hr.exists_cells?
  obtain rfl := Option.some.inj (hcells.symm.trans hcells')
  obtain ⟨x, y, hcovers, rfl⟩ := hr.mem_entries.1 he
  have hnone := List.findSome?_eq_none_iff.1 hfree _ ((hmem _).2 ⟨x, y, hcovers, rfl⟩)
  rw [Option.map_eq_none_iff] at hnone
  rw [Table.has_eq_isSome, find_fabric h hr.layer, hnone]
  rfl

/-- A tile that is placed in steps is placed as a whole, or not at all. -/
theorem fabric_put (h : g.IsFilled rs) (hr : r.IsWhole) :
    Fabric.place r.type r.x r.y r.layer g.fabric =
      Steps.ending fabric g ((g.put r).map (·, ())) := by
  obtain ⟨inside, hinside, -⟩ := fits_eq_ok h.size hr
  obtain ⟨covered, hcovered, hcells, hentries⟩ := hr.exists_footprint
  have hlook : g.fabric.requireInside r.type r.x r.y r.layer =
      if inside then .ok () else .error (.refused (.tileOutside r.type [r.x, r.y, r.layer])) := by
    show (g.fits r.type r.x r.y r.layer >>= _) = _
    rw [hinside]
    cases inside <;> rfl
  have hloop := Fabric.forM_requireFree (f := g.fabric) r.type [r.x, r.y, r.layer] r.layer covered
  rw [findSome?_fabric h hr hcells] at hloop
  have hcells' := hcells
  rw [TileRequest.tile] at hcells'
  cases inside with
  | false =>
    simp only [put, place, hinside, Except.ok_bind]
    exact Steps.lift_bind_of_error hlook _ _
  | true =>
    simp only [put, place, hinside, hr.x.asNumber_eq, hr.y.asNumber_eq, Except.ok_bind, hcells']
    refine (Steps.lift_bind_of_ok hlook _ _).trans ?_
    refine (Steps.lift_bind_of_ok hr.x.asNumber_eq _ _).trans ?_
    refine (Steps.lift_bind_of_ok hr.y.asNumber_eq _ _).trans ?_
    refine (Steps.lift_bind_of_ok hcovered _ _).trans ?_
    -- the first loop only looks; the second one writes, and finds every cell new to the table
    cases hfound : (covered.map (Fabric.cell r.layer)).findSome? fun p =>
        (g.occupant? p).map (p, ·) with
    | some found =>
      rw [hfound] at hloop
      exact Steps.bind_of_error hloop _
    | none =>
      rw [hfound] at hloop
      refine (Steps.bind_of_ok hloop _).trans ((Fabric.forM_set _ _ _).trans ?_)
      rw [← hentries, Table.setAll_of_not_has (has_fabric h hr hcells hfound) hr.entries_apart]
      have hcells_new : g.fabric.cells ++ r.tile.entries =
          (g.tiles ++ [r.tile]).flatMap PlacedTile.entries := by
        rw [List.flatMap_append, List.flatMap_singleton]
        rfl
      rw [hcells_new]
      rfl

/-! ### What is read -/

/-- The table of a grid shows what the grid shows. -/
lemma lookup_fabric (h : g.IsFilled rs) {x y layer : Int} (hin : g.Contains x y layer) :
    g.fabric.lookup [.int x, .int y, .int layer] = .ok (g.cellAt (.ofInts x y layer)) := by
  have hlocate : g.fabric.frame.locate [.int x, .int y, .int layer] = .ok (.ofInts x y layer) :=
    locate_eq h.size hin
  rw [Fabric.lookup, hlocate, Except.ok_bind, Fabric.cellAt,
    find_fabric h (Value.isWhole_int layer)]
  rfl

/-- The tiles that are found in the table are those of the grid. -/
lemma tilesNamed_fabric (h : g.IsFilled rs) (name : Value) :
    g.fabric.tilesNamed name = g.tilesNamed name := by
  have hcells : g.fabric.frame.cells =
      .ok (lattice g.layers.extent g.width.extent g.height.extent) :=
    cells_eq ⟨h.size.width, h.size.height, h.size.layers⟩
  rw [Fabric.tilesNamed, tilesNamed, hcells, cells_eq h.size, Except.ok_bind, Except.ok_bind]
  have hsites : ((lattice g.layers.extent g.width.extent g.height.extent).mapM fun p => do
      let c ← g.fabric.lookup p.toValues
      return if c.type.name.eqv name && c.isOrigin then some (siteOf c.type p) else none) =
      .ok ((lattice g.layers.extent g.width.extent g.height.extent).map fun p =>
        let c := g.cellAt p
        if c.type.name.eqv name && c.isOrigin then some (siteOf c.type p) else none) := by
    rw [Except.mapM_eq_ok, List.forall₂_map_right_iff, List.forall₂_same]
    intro p hp
    obtain ⟨x, y, layer, hin, rfl⟩ := (mem_lattice_iff_contains h.size).1 hp
    rw [Position.toValues, lookup_fabric h hin]
    rfl
  rw [hsites, Except.ok_bind, List.filterMap_map]
  rfl

end Grid

end NocRouting
