import NocRouting.Device.Grid
import NocRouting.Proofs.Network.Positions

/-!
# The cells of a grid

The cells of a grid have whole coordinates, and no cell is listed twice.  So the tiles that are found
on a grid are at whole positions, and no two of them are at the same one.

* `Grid.lattice` are the cells of so many layers, columns and rows, and `Grid.cells_eq_ok` says that
  they are those of a grid.
* `Grid.areSites` says what this means for the tiles with a name.
-/

namespace NocRouting

/-- How many numbers there are from zero up to a value. -/
def Value.extent (v : Value) : Nat :=
  (v.below?.getD []).length

lemma Value.below?_eq_some {v : Value} {ns : List Number} (h : v.below? = some ns) :
    ns = (List.range v.extent).map fun (k : Nat) => .int k := by
  have hlength : v.extent = ns.length := by
    rw [extent, h]
    rfl
  rw [hlength]
  unfold below? at h
  split at h
  · next b =>
    obtain rfl := Option.some.inj h
    cases b <;> rfl
  · obtain rfl := Option.some.inj h
    rw [List.length_map, List.length_range]
  · cases h

namespace Grid

/-- The cells of some layers with so many columns and rows. -/
def lattice (layers columns rows : Nat) : List Position :=
  (List.range layers).flatMap fun (layer : Nat) => (List.range columns).flatMap fun (x : Nat) =>
    (List.range rows).map fun (y : Nat) => .ofInts x y layer

section Lattice

variable {layers columns rows : Nat}

lemma mem_lattice {p : Position} : p ∈ lattice layers columns rows ↔
    ∃ layer < layers, ∃ x < columns, ∃ y < rows, Position.ofInts x y layer = p := by
  simp only [lattice, List.mem_flatMap, List.mem_map, List.mem_range]

lemma ofInts_apart {layer layer' x x' y y' : Nat} (h : layer ≠ layer' ∨ x ≠ x' ∨ y ≠ y') :
    (Position.ofInts x y layer).same (.ofInts x' y' layer') = false := by
  rw [Position.same_ofInts, ← Bool.not_eq_true]
  simp only [Bool.and_eq_true, beq_iff_eq]
  omega

/-- No cell is listed twice. -/
lemma lattice_apart :
    (lattice layers columns rows).Pairwise fun p q => p.same q = false := by
  simp only [lattice, List.pairwise_flatMap, List.pairwise_map, List.mem_flatMap, List.mem_map]
  refine ⟨fun layer _ => ⟨fun x _ => ?_, ?_⟩, ?_⟩
  · exact List.nodup_range.imp fun hy => ofInts_apart (.inr (.inr hy))
  · refine List.nodup_range.imp fun hx => ?_
    rintro p ⟨y, -, rfl⟩ q ⟨y', -, rfl⟩
    exact ofInts_apart (.inr (.inl hx))
  · refine List.nodup_range.imp fun hlayer => ?_
    rintro p ⟨x, -, y, -, rfl⟩ q ⟨x', -, y', -, rfl⟩
    exact ofInts_apart (.inl hlayer)

end Lattice

variable {g : Grid}

lemma coordinates_eq_ok {bound : Value} {ns : List Number} (h : coordinates bound = .ok ns) :
    ns = (List.range bound.extent).map fun (k : Nat) => .int k := by
  unfold coordinates at h
  split at h
  · next ns' hns' =>
    obtain rfl := Except.ok.inj h
    exact Value.below?_eq_some hns'
  · cases h

/-- The cells of a grid are those of its layers, columns and rows. -/
theorem cells_eq_ok {cells : List Position} (h : g.cells = .ok cells) :
    cells = lattice g.layers.extent g.width.extent g.height.extent := by
  simp only [Grid.cells, Except.bind_eq_ok, Except.pure_eq_ok, Except.mapM_eq_ok] at h
  obtain ⟨ls, hls, layers, hlayers, rfl⟩ := h
  obtain rfl := coordinates_eq_ok hls
  rw [List.forall₂_map_left_iff] at hlayers
  have hlayer : layers = (List.range g.layers.extent).map fun (layer : Nat) =>
      (List.range g.width.extent).flatMap fun (x : Nat) =>
        (List.range g.height.extent).map fun (y : Nat) => Position.ofInts x y layer := by
    rw [← List.forall₂_eq_eq_eq, List.forall₂_map_right_iff]
    refine hlayers.flip.imp ?_
    rintro cells layer ⟨xs, hxs, columns, hcolumns, rfl⟩
    obtain rfl := coordinates_eq_ok hxs
    rw [List.forall₂_map_left_iff] at hcolumns
    have hcolumn : columns = (List.range g.width.extent).map fun (x : Nat) =>
        (List.range g.height.extent).map fun (y : Nat) => Position.ofInts x y layer := by
      rw [← List.forall₂_eq_eq_eq, List.forall₂_map_right_iff]
      refine hcolumns.flip.imp ?_
      rintro cells x ⟨ys, hys, rfl⟩
      rw [coordinates_eq_ok hys, List.map_map]
      rfl
    rw [hcolumn, List.flatMap_def]
  rw [hlayer, lattice, List.flatMap_def]

end Grid

/-! ### Tiles -/

/-- Tiles at different whole positions. -/
structure AreSites (tiles : List TileSite) : Prop where
  whole : ∀ s ∈ tiles, s.position.IsWhole
  apart : tiles.Pairwise fun s s' => s.position.same s'.position = false

namespace Grid

variable {g : Grid} {name : Value} {tiles : List TileSite}

/-- Every tile that is found has a cell of its own. -/
lemma positions_sublist (h : g.tilesNamed name = .ok tiles) :
    (tiles.map (·.position)).Sublist
      (lattice g.layers.extent g.width.extent g.height.extent) := by
  obtain ⟨cells, hcells, hpure⟩ := Except.bind_eq_ok.1 h
  obtain rfl := Except.pure_eq_ok.1 hpure
  rw [← cells_eq_ok hcells, List.map_filterMap]
  have hfilter : ∀ p, Option.map (·.position) (if (g.cellAt p).type.name.eqv name &&
      (g.cellAt p).isOrigin then some (siteOf (g.cellAt p).type p) else none) =
      Option.guard (fun p => (g.cellAt p).type.name.eqv name && (g.cellAt p).isOrigin) p := by
    intro p
    rw [Option.guard]
    split <;> rfl
  rw [List.filterMap_congr fun p _ => hfilter p, List.filterMap_eq_filter]
  exact List.filter_sublist

/-- The tiles that are found are at different whole positions. -/
theorem areSites (h : g.tilesNamed name = .ok tiles) : AreSites tiles where
  whole := by
    intro s hs
    obtain ⟨layer, -, x, -, y, -, hp⟩ :=
      mem_lattice.1 ((positions_sublist h).subset (List.mem_map_of_mem hs))
    rw [← hp]
    exact Position.isWhole_ofInts x y layer
  apart := List.pairwise_map.1 (lattice_apart.sublist (positions_sublist h))

end Grid

end NocRouting
