import NocRouting.Device.Grid
import NocRouting.Proofs.Outcome
import NocRouting.Proofs.Whole

/-!
# Footprints

A tile covers a rectangle of cells of one layer, its footprint.  It is put on a grid exactly if its
footprint lies on the grid and has no cell in common with the footprints of the tiles before it;
then every cell under it shows it, with the distance from its origin.

* `TileRequest.Covers` says which cells are in the footprint of a tile.
* `Grid.IsFilled` says that the tiles of a grid are those of some requests, which is what
  `Grid.cellAt_of_covers` and `Grid.cellAt_of_not_covers` read off its cells.
* `Grid.put_eq` says that a request that fits is accepted, and `Grid.fits_of_put` that no other is.
-/

namespace NocRouting

/-- A request to put a tile on a grid, with its origin at a place. -/
structure TileRequest where
  type : TileType
  x : Value
  y : Value
  layer : Value

namespace TileRequest

/-- The request is for a tile type that can be made, with a size and a place in whole numbers. -/
structure IsWhole (r : TileRequest) : Prop where
  made : TileType.make r.type.name r.type.width r.type.height = .ok r.type
  width : r.type.width.IsWhole
  height : r.type.height.IsWhole
  x : r.x.IsWhole
  y : r.y.IsWhole
  layer : r.layer.IsWhole

/-- The tile covers the cell in a column and a row of a layer. -/
structure Covers (r : TileRequest) (x y layer : Int) : Prop where
  layer : r.layer.whole = layer
  left : r.x.whole ≤ x
  right : x < r.x.whole + r.type.width.whole
  bottom : r.y.whole ≤ y
  top : y < r.y.whole + r.type.height.whole

lemma covers_iff {r : TileRequest} {x y layer : Int} : r.Covers x y layer ↔
    r.layer.whole = layer ∧ r.x.whole ≤ x ∧ x < r.x.whole + r.type.width.whole ∧
      r.y.whole ≤ y ∧ y < r.y.whole + r.type.height.whole :=
  ⟨fun ⟨hlayer, hleft, hright, hbottom, htop⟩ => ⟨hlayer, hleft, hright, hbottom, htop⟩,
    fun ⟨hlayer, hleft, hright, hbottom, htop⟩ => ⟨hlayer, hleft, hright, hbottom, htop⟩⟩

instance (r : TileRequest) (x y layer : Int) : Decidable (r.Covers x y layer) :=
  decidable_of_iff' _ covers_iff

/-- The tiles have no cell in common. -/
def Apart (r s : TileRequest) : Prop :=
  ∀ x y layer, ¬ (r.Covers x y layer ∧ s.Covers x y layer)

/-- The tile as it stands on a grid. -/
def tile (r : TileRequest) : PlacedTile :=
  ⟨r.type, .int r.x.whole, .int r.y.whole, r.layer⟩

/-- The cell of the tile at its bottom left. -/
def origin (r : TileRequest) : Position :=
  .ofInts r.x.whole r.y.whole r.layer.whole

/-- What a cell under the tile shows. -/
def shows (r : TileRequest) (x y : Int) : TileCell :=
  ⟨r.type, .int (x - r.x.whole), .int (y - r.y.whole)⟩

end TileRequest

namespace Value.IsWhole

variable {v : Value} (hv : v.IsWhole)
include hv

lemma asNumber_eq : v.asNumber = .ok (.int v.whole) := by
  rw [asNumber, hv]

/-- A whole number is counted up to. -/
lemma below?_eq : v.below? = some ((List.range v.whole.toNat).map fun (k : Nat) => .int k) := by
  cases v with
  | bool b => cases b <;> rfl
  | number n =>
    cases n with
    | int n => rfl
    | float x => cases hv
  | _ => cases hv

end Value.IsWhole

/-- A tile type that can be made covers at least one cell. -/
lemma TileRequest.IsWhole.size_pos {r : TileRequest} (hr : r.IsWhole) :
    1 ≤ r.type.width.whole ∧ 1 ≤ r.type.height.whole := by
  have hmade := hr.made
  simp only [TileType.make, hr.width.asNumber_eq, hr.height.asNumber_eq, Except.ok_bind] at hmade
  split at hmade
  · exact absurd hmade Except.throw_bind_ne_ok
  · next hwidth =>
    split at hmade
    · exact absurd hmade Except.throw_bind_ne_ok
    · next hheight =>
      have hw : ¬ decide (r.type.width.whole < 1) = true := hwidth
      have hh : ¬ decide (r.type.height.whole < 1) = true := hheight
      rw [decide_eq_true_eq] at hw hh
      omega

/-- The origin of a tile is under it. -/
lemma TileRequest.IsWhole.covers_origin {r : TileRequest} (hr : r.IsWhole) :
    r.Covers r.x.whole r.y.whole r.layer.whole := by
  obtain ⟨hw, hh⟩ := hr.size_pos
  exact ⟨rfl, Int.le_refl _, by omega, Int.le_refl _, by omega⟩

/-! ### The cells under a tile -/

namespace PlacedTile

/-- How far a coordinate is from the first of some consecutive whole ones. -/
lemma offset?_eq {size : Value} (hsize : size.IsWhole) (a b : Int) :
    offset? (.int a) size (.int b) =
      if a ≤ b ∧ b < a + size.whole then some (.int (b - a)) else none := by
  cases size with
  | bool c =>
    cases c with
    | false =>
      have hout : ¬ (a ≤ b ∧ b < a + 0) := by omega
      exact (if_neg hout).symm
    | true =>
      have honly : offset? (.int a) (.bool true) (.int b) = [Number.int 0].findSome? fun d =>
          if (Number.int a + d).same (.int b) then some (Number.int a + d - Number.int a)
          else none := rfl
      have hone : (Value.bool true).whole = 1 := rfl
      rw [honly, hone, List.findSome?_singleton, Number.add_int, Number.same_int, Number.sub_int,
        Int.add_zero, Int.sub_self]
      by_cases hab : a = b
      · subst hab
        have hin : a ≤ a ∧ a < a + 1 := by omega
        rw [if_pos hin, if_pos (beq_self_eq_true a), Int.sub_self]
      · have hout : ¬ (a ≤ b ∧ b < a + 1) := by omega
        rw [if_neg hout, if_neg (by simpa using hab)]
  | number n =>
    cases n with
    | int n =>
      show (if a ≤ b ∧ b - a < n then some (Number.int (b - a)) else none) = _
      have hiff : a ≤ b ∧ b - a < n ↔ a ≤ b ∧ b < a + n := by omega
      exact if_congr hiff rfl rfl
    | float x => cases hsize
  | _ => cases hsize

/-- Whole coordinates are all different, so that none is left out. -/
lemma coordinates?_eq {size : Value} (hsize : size.IsWhole) (a : Int) :
    coordinates? (.int a) size =
      some ((List.range size.whole.toNat).map fun (k : Nat) => .int (a + k)) := by
  have hfold : ∀ ks : List Nat, ks.Pairwise (· < ·) →
      (ks.map fun (k : Nat) => Number.int k).foldr (fun d later =>
        let c := Number.int a + d
        if later.head?.any c.same then c :: later.drop 1 else c :: later) [] =
      ks.map fun (k : Nat) => Number.int (a + k) := by
    intro ks hks
    induction hks with
    | nil => rfl
    | @cons k ks hk _ ih =>
      rw [List.map_cons, List.foldr_cons, ih]
      have hhead : (ks.map fun (k : Nat) => Number.int (a + k)).head?.any
          (Number.int (a + k)).same = false := by
        cases ks with
        | nil => rfl
        | cons k' ks =>
          have hlt := hk k' List.mem_cons_self
          simp only [List.map_cons, List.head?_cons, Option.any_some, Number.same_int,
            beq_eq_false_iff_ne]
          omega
      simp only [Number.add_int, hhead, Bool.false_eq_true, if_false]
      rfl
  rw [coordinates?, hsize.below?_eq]
  exact congrArg some (hfold _ List.pairwise_lt_range)

end PlacedTile

namespace TileRequest

variable {r : TileRequest} (hr : r.IsWhole)
include hr

/-- A cell under a tile shows it; other cells do not. -/
lemma IsWhole.cellAt?_of_covers {x y : Int} {layer : Value} (hl : layer.IsWhole)
    (h : r.Covers x y layer.whole) :
    r.tile.cellAt? ⟨.int x, .int y, layer⟩ = some (r.shows x y) := by
  have hlayer : r.layer.same layer = true := (hr.layer.same_iff hl).2 h.layer
  have hx := PlacedTile.offset?_eq hr.width r.x.whole x
  have hy := PlacedTile.offset?_eq hr.height r.y.whole y
  rw [if_pos ⟨h.left, h.right⟩] at hx
  rw [if_pos ⟨h.bottom, h.top⟩] at hy
  simp only [PlacedTile.cellAt?, tile, hlayer, if_true, Value.number?_int, Option.bind_eq_bind,
    Option.bind_some, hx, hy]
  rfl

lemma IsWhole.cellAt?_of_not_covers {x y : Int} {layer : Value} (hl : layer.IsWhole)
    (h : ¬ r.Covers x y layer.whole) : r.tile.cellAt? ⟨.int x, .int y, layer⟩ = none := by
  by_cases hlayer : r.layer.whole = layer.whole
  · have hsame : r.layer.same layer = true := (hr.layer.same_iff hl).2 hlayer
    simp only [PlacedTile.cellAt?, tile, hsame, if_true, Value.number?_int, Option.bind_eq_bind,
      Option.bind_some, PlacedTile.offset?_eq hr.width, PlacedTile.offset?_eq hr.height]
    by_cases hx : r.x.whole ≤ x ∧ x < r.x.whole + r.type.width.whole
    · have hy : ¬ (r.y.whole ≤ y ∧ y < r.y.whole + r.type.height.whole) := fun hy =>
        h ⟨hlayer, hx.1, hx.2, hy.1, hy.2⟩
      rw [if_pos hx, if_neg hy]
      rfl
    · rw [if_neg hx]
      rfl
  · have hsame : r.layer.same layer = false := by
      rw [← Bool.not_eq_true, hr.layer.same_iff hl]
      exact hlayer
    simp [PlacedTile.cellAt?, tile, hsame]

/-- The cells under a tile are those that it covers. -/
lemma IsWhole.exists_cells? : ∃ cells, r.tile.cells? = some cells ∧
    ∀ p, p ∈ cells ↔ ∃ x y, r.Covers x y r.layer.whole ∧ p = ⟨.int x, .int y, r.layer⟩ := by
  refine ⟨_, by rw [PlacedTile.cells?, tile, PlacedTile.coordinates?_eq hr.width,
    PlacedTile.coordinates?_eq hr.height]; rfl, fun p => ?_⟩
  simp only [List.mem_flatMap, List.mem_map, List.mem_range, exists_exists_and_eq_and]
  constructor
  · rintro ⟨dx, hdx, dy, hdy, rfl⟩
    exact ⟨_, _, ⟨rfl, by omega, by omega, by omega, by omega⟩, rfl⟩
  · rintro ⟨x, y, h, rfl⟩
    obtain ⟨-, hleft, hright, hbottom, htop⟩ := h
    refine ⟨(x - r.x.whole).toNat, by omega, (y - r.y.whole).toNat, by omega, ?_⟩
    have hx : r.x.whole + (x - r.x.whole).toNat = x := by omega
    have hy : r.y.whole + (y - r.y.whole).toNat = y := by omega
    rw [hx, hy]

end TileRequest

/-! ### Grids with tiles -/

namespace Grid

/-- The grid has a size in whole numbers. -/
structure HasWholeSize (g : Grid) : Prop where
  width : g.width.IsWhole
  height : g.height.IsWhole
  layers : g.layers.IsWhole

/-- The grid has a cell in a column and a row of a layer. -/
structure Contains (g : Grid) (x y layer : Int) : Prop where
  left : 0 ≤ x
  right : x < g.width.whole
  bottom : 0 ≤ y
  top : y < g.height.whole
  lowest : 0 ≤ layer
  highest : layer < g.layers.whole

/-- Put a tile on the grid, as is asked for. -/
def put (g : Grid) (r : TileRequest) : Except Fault Grid :=
  g.place r.type r.x r.y r.layer

/-- The tile fits: it covers cells of the grid only, and none that is under one of some tiles. -/
structure Fits (g : Grid) (earlier : List TileRequest) (r : TileRequest) : Prop where
  inside : ∀ x y layer, r.Covers x y layer → g.Contains x y layer
  apart : ∀ s ∈ earlier, r.Apart s

/-- The tiles of the grid are those of some requests, none of which has a cell in common with
another. -/
structure IsFilled (g : Grid) (rs : List TileRequest) : Prop where
  size : g.HasWholeSize
  tiles : g.tiles = rs.map TileRequest.tile
  whole : ∀ r ∈ rs, r.IsWhole
  inside : ∀ r ∈ rs, ∀ x y layer, r.Covers x y layer → g.Contains x y layer
  apart : rs.Pairwise TileRequest.Apart

variable {g g' : Grid} {rs : List TileRequest} {r : TileRequest}

/-! ### Cells -/

section Cells

variable (h : g.IsFilled rs)
include h

/-- A cell under a tile is occupied by it. -/
lemma IsFilled.occupant?_of_covers (hr : r ∈ rs) {x y : Int} {layer : Value} (hl : layer.IsWhole)
    (hcovers : r.Covers x y layer.whole) :
    g.occupant? ⟨.int x, .int y, layer⟩ = some (r.shows x y) := by
  rw [occupant?, h.tiles, List.findSome?_map]
  obtain ⟨before, behind, rfl⟩ := List.append_of_mem hr
  -- the tiles before this one do not cover the cell
  have hbefore : ∀ s ∈ before, ¬ s.Covers x y layer.whole := by
    intro s hs hs'
    exact (List.pairwise_append.1 h.apart).2.2 s hs r List.mem_cons_self x y _ ⟨hs', hcovers⟩
  have hnone : before.findSome? ((·.cellAt? ⟨.int x, .int y, layer⟩) ∘ TileRequest.tile) =
      none := by
    rw [List.findSome?_eq_none_iff]
    intro s hs
    exact (h.whole s (List.mem_append_left _ hs)).cellAt?_of_not_covers hl (hbefore s hs)
  rw [List.findSome?_append, hnone, Option.none_or, List.findSome?_cons, Function.comp_apply,
    (h.whole r hr).cellAt?_of_covers hl hcovers]

lemma IsFilled.occupant?_of_not_covers {x y : Int} {layer : Value} (hl : layer.IsWhole)
    (hcovers : ∀ r ∈ rs, ¬ r.Covers x y layer.whole) :
    g.occupant? ⟨.int x, .int y, layer⟩ = none := by
  rw [occupant?, h.tiles, List.findSome?_map, List.findSome?_eq_none_iff]
  intro r hr
  exact (h.whole r hr).cellAt?_of_not_covers hl (hcovers r hr)

/-- What a cell under a tile shows. -/
theorem IsFilled.cellAt_of_covers (hr : r ∈ rs) {x y layer : Int}
    (hcovers : r.Covers x y layer) : g.cellAt (.ofInts x y layer) = r.shows x y := by
  rw [cellAt, h.occupant?_of_covers hr (Value.isWhole_int layer) hcovers, Option.getD_some]

/-- A cell under no tile is empty. -/
theorem IsFilled.cellAt_of_not_covers {x y layer : Int}
    (hcovers : ∀ r ∈ rs, ¬ r.Covers x y layer) : g.cellAt (.ofInts x y layer) = .empty := by
  rw [cellAt, h.occupant?_of_not_covers (Value.isWhole_int layer) hcovers, Option.getD_none]

end Cells

/-! ### What is accepted -/

lemma isInside_eq {v bound : Value} (hv : v.IsWhole) (hbound : bound.IsWhole) :
    isInside v bound = .ok (decide (0 ≤ v.whole ∧ v.whole < bound.whole)) := by
  simp only [isInside, hv.asNumber_eq, hbound.asNumber_eq, Except.ok_bind]
  show (if Number.le (.int 0) (.int v.whole) = true then _ else _) = _
  rw [Number.le_int]
  by_cases h : 0 ≤ v.whole
  · simp [h, pure, Except.pure]
  · simp [h, pure, Except.pure]

lemma isSpanInside_eq {v bound : Value} (hv : v.IsWhole) (hbound : bound.IsWhole) (n : Int) :
    isSpanInside v (.int n) bound = .ok (decide (0 ≤ v.whole ∧ v.whole + n ≤ bound.whole)) := by
  simp only [isSpanInside, hv.asNumber_eq, hbound.asNumber_eq, Except.ok_bind,
    Number.meeting_int, Number.add_int]
  show (if Number.le (.int 0) (.int v.whole) = true then _ else _) = _
  rw [Number.le_int]
  by_cases h : 0 ≤ v.whole
  · simp [h, pure, Except.pure]
  · simp [h, pure, Except.pure]

/-- The check of the footprint against the edges of the grid says whether all of it lies on the
grid. -/
lemma fits_eq_ok (hg : g.HasWholeSize) (hr : r.IsWhole) :
    ∃ b, g.fits r.type r.x r.y r.layer = .ok b ∧
      (b = true ↔ ∀ x y layer, r.Covers x y layer → g.Contains x y layer) := by
  obtain ⟨hw, hh⟩ := hr.size_pos
  have hcolumns : r.type.columns = .int r.type.width.whole := by
    rw [TileType.columns, hr.width, Option.getD_some]
  have hrows : r.type.rows = .int r.type.height.whole := by
    rw [TileType.rows, hr.height, Option.getD_some]
  refine ⟨decide ((0 ≤ r.x.whole ∧ r.x.whole + r.type.width.whole ≤ g.width.whole) ∧
    (0 ≤ r.y.whole ∧ r.y.whole + r.type.height.whole ≤ g.height.whole) ∧
    0 ≤ r.layer.whole ∧ r.layer.whole < g.layers.whole), ?_, ?_⟩
  · simp only [fits, hcolumns, hrows, isSpanInside_eq hr.x hg.width, isSpanInside_eq hr.y hg.height,
      isInside_eq hr.layer hg.layers, Except.ok_bind]
    by_cases hx : 0 ≤ r.x.whole ∧ r.x.whole + r.type.width.whole ≤ g.width.whole
    · by_cases hy : 0 ≤ r.y.whole ∧ r.y.whole + r.type.height.whole ≤ g.height.whole
      · simp only [hx, hy, and_self, decide_true, Bool.not_true, Bool.false_eq_true, if_false,
          true_and]
      · simp only [hx, hy, and_self, decide_true, decide_false, Bool.not_true, Bool.not_false,
          Bool.false_eq_true, if_false, if_true, false_and, and_false]
        rfl
    · simp only [hx, decide_false, Bool.not_false, if_true, false_and]
      rfl
  · rw [decide_eq_true_eq]
    constructor
    · rintro ⟨⟨hx, hx'⟩, ⟨hy, hy'⟩, hl, hl'⟩ x y layer ⟨rfl, hleft, hright, hbottom, htop⟩
      exact ⟨by omega, by omega, by omega, by omega, hl, hl'⟩
    · intro h
      -- the first and the last cell under the tile tell where all of them are
      have hfirst := h _ _ _ hr.covers_origin
      have hlast := h (r.x.whole + r.type.width.whole - 1) (r.y.whole + r.type.height.whole - 1) _
        ⟨rfl, by omega, by omega, by omega, by omega⟩
      have hright := hlast.right
      have htop := hlast.top
      exact ⟨⟨hfirst.left, by omega⟩, ⟨hfirst.bottom, by omega⟩, hfirst.lowest, hfirst.highest⟩

section Put

variable (h : g.IsFilled rs) (hr : r.IsWhole)
include h hr

/-- No cell under the tile is occupied exactly if it has none in common with the tiles before. -/
lemma IsFilled.findSome?_eq_none_iff {cells : List Position}
    (hcells : ∀ p, p ∈ cells ↔ ∃ x y, r.Covers x y r.layer.whole ∧
      p = ⟨.int x, .int y, r.layer⟩) :
    cells.findSome? (fun c => (g.occupant? c).map (c, ·)) = none ↔ ∀ s ∈ rs, r.Apart s := by
  rw [List.findSome?_eq_none_iff]
  constructor
  · intro hnone s hs x y layer hboth
    obtain ⟨hcovers, hcovers'⟩ := hboth
    obtain rfl := hcovers.layer
    have hfree := hnone _ ((hcells _).2 ⟨x, y, hcovers, rfl⟩)
    rw [h.occupant?_of_covers hs hr.layer hcovers'] at hfree
    cases hfree
  · intro hapart p hp
    obtain ⟨x, y, hcovers, rfl⟩ := (hcells p).1 hp
    rw [h.occupant?_of_not_covers hr.layer fun s hs hs' => hapart s hs x y _ ⟨hcovers, hs'⟩]
    rfl

/-- A request that fits is accepted. -/
theorem IsFilled.put_eq (hfits : g.Fits rs r) :
    g.put r = .ok { g with tiles := g.tiles ++ [r.tile] } := by
  obtain ⟨b, hb, hinside⟩ := fits_eq_ok h.size hr
  obtain rfl := hinside.2 hfits.inside
  obtain ⟨cells, hcells, hmem⟩ := hr.exists_cells?
  have hfree := (h.findSome?_eq_none_iff hr hmem).2 hfits.apart
  rw [TileRequest.tile] at hcells
  simp only [put, place, hb, hr.x.asNumber_eq, hr.y.asNumber_eq, Except.ok_bind, hcells, hfree]
  rfl

/-- No other request is accepted. -/
theorem IsFilled.fits_of_put (hput : g.put r = .ok g') : g.Fits rs r := by
  obtain ⟨b, hb, hinside⟩ := fits_eq_ok h.size hr
  obtain ⟨cells, hcells, hmem⟩ := hr.exists_cells?
  rw [TileRequest.tile] at hcells
  simp only [put, place, hb, hr.x.asNumber_eq, hr.y.asNumber_eq, Except.ok_bind, hcells] at hput
  cases b with
  | false => exact absurd hput Except.throw_bind_ne_ok
  | true =>
    refine ⟨hinside.1 rfl, (h.findSome?_eq_none_iff hr hmem).1 ?_⟩
    cases hfound : cells.findSome? fun c => (g.occupant? c).map (c, ·) with
    | none => rfl
    | some found =>
      rw [hfound] at hput
      exact absurd hput Except.throw_ne_ok

/-- The tiles of a grid with one more are those before and the new one. -/
theorem IsFilled.of_put (hput : g.put r = .ok g') : g'.IsFilled (rs ++ [r]) ∧
    g'.width = g.width ∧ g'.height = g.height ∧ g'.layers = g.layers := by
  have hfits := h.fits_of_put hr hput
  obtain rfl := Except.ok.inj ((h.put_eq hr hfits).symm.trans hput)
  refine ⟨⟨⟨h.size.width, h.size.height, h.size.layers⟩, ?_, ?_, ?_, ?_⟩, rfl, rfl, rfl⟩
  · rw [List.map_append, h.tiles]
    rfl
  · exact List.forall_mem_append.2 ⟨h.whole, List.forall_mem_singleton.2 hr⟩
  · refine List.forall_mem_append.2 ⟨?_, List.forall_mem_singleton.2 ?_⟩
    · intro s hs x y layer hcovers
      have hin := h.inside s hs x y layer hcovers
      exact ⟨hin.left, hin.right, hin.bottom, hin.top, hin.lowest, hin.highest⟩
    · intro x y layer hcovers
      have hin := hfits.inside x y layer hcovers
      exact ⟨hin.left, hin.right, hin.bottom, hin.top, hin.lowest, hin.highest⟩
  · refine List.pairwise_append.2 ⟨h.apart, List.pairwise_singleton _ _, ?_⟩
    intro s hs r' hr' x y layer hboth
    obtain rfl := List.mem_singleton.1 hr'
    exact hfits.apart s hs x y layer ⟨hboth.2, hboth.1⟩

end Put

end Grid

end NocRouting
