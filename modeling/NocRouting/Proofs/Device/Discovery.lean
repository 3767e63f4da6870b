import Mathlib.Data.List.Perm.Basic
import Mathlib.Data.Prod.Lex
import NocRouting.Proofs.Device.Cells
import NocRouting.Proofs.Device.Footprints

/-!
# Tiles are found where they were put

The cells of a grid are listed layer by layer, column by column and row by row.  So the tiles with a
name are found at their origins, in that order.

* `Grid.cells_eq` lists the cells of a grid, and `Grid.locate_eq` says that each of them can be looked
  up.
* `Grid.tilesNamed_eq` says which tiles are found on a grid.
-/

namespace NocRouting

/-- The place of a position in the order of the cells of a grid: its layer, its column, its row. -/
def Position.turn (p : Position) : Int ×ₗ Int ×ₗ Int :=
  toLex (p.layer.whole, toLex (p.x.whole, p.y.whole))

/-- A tile as it is found on a grid. -/
def TileRequest.site (r : TileRequest) : TileSite :=
  Grid.siteOf r.type r.origin

namespace Grid

/-! ### Cells in order -/

/-- The cells are listed layer by layer, column by column and row by row. -/
lemma lattice_sorted {layers columns rows : Nat} :
    (lattice layers columns rows).Pairwise fun p q => p.turn < q.turn := by
  simp only [lattice, List.pairwise_flatMap, List.pairwise_map, List.mem_flatMap, List.mem_map]
  refine ⟨fun layer _ => ⟨fun x _ => ?_, ?_⟩, ?_⟩
  · refine List.pairwise_lt_range.imp fun {y y'} hy => ?_
    exact Prod.Lex.right _ (Prod.Lex.right _ (Int.ofNat_lt.2 hy))
  · refine List.pairwise_lt_range.imp fun {x x'} hx => ?_
    rintro p ⟨y, -, rfl⟩ q ⟨y', -, rfl⟩
    exact Prod.Lex.right _ (Prod.Lex.left _ _ (Int.ofNat_lt.2 hx))
  · refine List.pairwise_lt_range.imp fun {layer layer'} hlayer => ?_
    rintro p ⟨x, -, y, -, rfl⟩ q ⟨x', -, y', -, rfl⟩
    exact Prod.Lex.left _ _ (Int.ofNat_lt.2 hlayer)

variable {g g' : Grid} {rs : List TileRequest} {r : TileRequest}

lemma extent_eq {v : Value} (hv : v.IsWhole) : v.extent = v.whole.toNat := by
  rw [Value.extent, hv.below?_eq, Option.getD_some, List.length_map, List.length_range]

/-- A grid with a whole size can be looked through. -/
lemma cells_eq (hg : g.HasWholeSize) :
    g.cells = .ok (lattice g.layers.extent g.width.extent g.height.extent) := by
  have hcoordinates : ∀ {bound : Value}, bound.IsWhole → coordinates bound =
      pure ((List.range bound.whole.toNat).map fun (k : Nat) => .int k) := by
    intro bound hbound
    rw [coordinates, hbound.below?_eq]
    rfl
  have hcells : ∃ cells, g.cells = .ok cells := by
    simp only [cells, hcoordinates hg.width, hcoordinates hg.height, hcoordinates hg.layers,
      pure_bind, List.mapM_pure]
    exact ⟨_, rfl⟩
  obtain ⟨cells, h⟩ := hcells
  rw [h, cells_eq_ok h]

/-- Its cells are all those that lie on it. -/
lemma mem_lattice_iff_contains (hg : g.HasWholeSize) {p : Position} :
    p ∈ lattice g.layers.extent g.width.extent g.height.extent ↔
      ∃ x y layer, g.Contains x y layer ∧ .ofInts x y layer = p := by
  rw [mem_lattice, extent_eq hg.layers, extent_eq hg.width, extent_eq hg.height]
  constructor
  · rintro ⟨layer, hlayer, x, hx, y, hy, rfl⟩
    exact ⟨x, y, layer, ⟨by omega, by omega, by omega, by omega, by omega, by omega⟩, rfl⟩
  · rintro ⟨x, y, layer, hin, rfl⟩
    obtain ⟨hleft, hright, hbottom, htop, hlowest, hhighest⟩ := hin
    refine ⟨layer.toNat, by omega, x.toNat, by omega, y.toNat, by omega, ?_⟩
    rw [Int.toNat_of_nonneg hleft, Int.toNat_of_nonneg hbottom, Int.toNat_of_nonneg hlowest]

/-- A cell of the grid can be looked up. -/
lemma locate_eq (hg : g.HasWholeSize) {x y layer : Int} (hin : g.Contains x y layer) :
    g.locate [.int x, .int y, .int layer] = .ok (.ofInts x y layer) := by
  have hx := isInside_eq (Value.isWhole_int x) hg.width
  have hy := isInside_eq (Value.isWhole_int y) hg.height
  have hlayer := isInside_eq (Value.isWhole_int layer) hg.layers
  rw [Value.whole_int, decide_eq_true ⟨hin.left, hin.right⟩] at hx
  rw [Value.whole_int, decide_eq_true ⟨hin.bottom, hin.top⟩] at hy
  rw [Value.whole_int, decide_eq_true ⟨hin.lowest, hin.highest⟩] at hlayer
  simp only [locate, locate.within, hx, hy, hlayer, Except.ok_bind]
  rfl

/-! ### Tiles with a name -/

/-- A tile is found at every origin of a tile with the name. -/
lemma mem_tilesNamed {name : Value} {sites : List TileSite} (h : g.tilesNamed name = .ok sites)
    {s : TileSite} : s ∈ sites ↔ ∃ p ∈ lattice g.layers.extent g.width.extent g.height.extent,
      ((g.cellAt p).type.name.eqv name = true ∧ (g.cellAt p).isOrigin = true) ∧
        siteOf (g.cellAt p).type p = s := by
  obtain ⟨cells, hcells, hpure⟩ := Except.bind_eq_ok.1 h
  obtain rfl := Except.pure_eq_ok.1 hpure
  simp only [cells_eq_ok hcells, List.mem_filterMap, Option.ite_none_right_eq_some,
    Bool.and_eq_true, Option.some.injEq]

/-- A cell of a tile is its origin exactly if it lies where the tile was put. -/
lemma isOrigin_shows {x y : Int} :
    (r.shows x y).isOrigin = true ↔ x = r.x.whole ∧ y = r.y.whole := by
  simp only [TileCell.isOrigin, TileRequest.shows, Number.isZero_int, Bool.and_eq_true, beq_iff_eq]
  omega

/-- Tiles without a common cell are found in different places. -/
lemma site_ne {s : TileRequest} (hr : r.IsWhole) (hs : s.IsWhole) (h : r.Apart s) :
    r.site ≠ s.site := by
  intro hsite
  have hposition : r.origin = s.origin := congrArg TileSite.position hsite
  have hx : r.x.whole = s.x.whole := congrArg (·.x.whole) hposition
  have hy : r.y.whole = s.y.whole := congrArg (·.y.whole) hposition
  have hlayer : r.layer.whole = s.layer.whole := congrArg (·.layer.whole) hposition
  refine h _ _ _ ⟨hr.covers_origin, ?_⟩
  rw [hx, hy, hlayer]
  exact hs.covers_origin

/-- The tiles with a name are found at their origins, each once and in the order of the cells,
unless empty cells have that name too. -/
theorem tilesNamed_eq (h : g.IsFilled rs) {name : Value}
    (hname : TileType.empty.name.eqv name = false) :
    ∃ sites, g.tilesNamed name = .ok sites ∧
      sites.Perm ((rs.filter fun r => r.type.name.eqv name).map TileRequest.site) ∧
      sites.Pairwise fun s s' => s.position.turn < s'.position.turn := by
  obtain ⟨sites, hsites⟩ : ∃ sites, g.tilesNamed name = .ok sites := by
    rw [tilesNamed, cells_eq h.size]
    exact ⟨_, rfl⟩
  have hsorted : sites.Pairwise fun s s' => s.position.turn < s'.position.turn := by
    have hpositions := lattice_sorted.sublist (positions_sublist hsites)
    rwa [List.pairwise_map] at hpositions
  refine ⟨sites, hsites, (List.perm_ext_iff_of_nodup ?_ ?_).2 fun s => ?_, hsorted⟩
  · refine hsorted.imp fun {s s'} hlt => ?_
    rintro rfl
    exact lt_irrefl _ hlt
  · refine List.pairwise_map.2 ((h.apart.filter _).imp_of_mem fun {r r'} hr hr' hapart => ?_)
    exact site_ne (h.whole r (List.mem_of_mem_filter hr)) (h.whole r' (List.mem_of_mem_filter hr'))
      hapart
  rw [mem_tilesNamed hsites, List.mem_map]
  constructor
  · rintro ⟨p, hp, ⟨hnamed, horigin⟩, rfl⟩
    obtain ⟨x, y, layer, hin, rfl⟩ := (mem_lattice_iff_contains h.size).1 hp
    by_cases hcovered : ∃ r ∈ rs, r.Covers x y layer
    · obtain ⟨r, hr, hcovers⟩ := hcovered
      rw [h.cellAt_of_covers hr hcovers] at hnamed horigin ⊢
      obtain ⟨rfl, rfl⟩ := isOrigin_shows.1 horigin
      obtain rfl := hcovers.layer
      exact ⟨r, List.mem_filter.2 ⟨hr, hnamed⟩, rfl⟩
    · -- an empty cell does not have the name
      rw [h.cellAt_of_not_covers fun r hr hcovers => hcovered ⟨r, hr, hcovers⟩] at hnamed
      exact absurd hnamed (by rw [TileCell.empty, hname]; exact Bool.false_ne_true)
  · rintro ⟨r, hr, rfl⟩
    obtain ⟨hmem, hnamed⟩ := List.mem_filter.1 hr
    have hcovers := (h.whole r hmem).covers_origin
    have hin := h.inside r hmem _ _ _ hcovers
    have hcell : g.cellAt r.origin = r.shows r.x.whole r.y.whole := h.cellAt_of_covers hmem hcovers
    refine ⟨r.origin, (mem_lattice_iff_contains h.size).2 ⟨_, _, _, hin, rfl⟩, ?_⟩
    rw [hcell]
    exact ⟨⟨hnamed, isOrigin_shows.2 ⟨rfl, rfl⟩⟩, rfl⟩

end Grid

end NocRouting
