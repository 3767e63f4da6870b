import NocRouting.Proofs.Device.Writing

/-!
# The history of a grid

A grid is filled by asking it to take tiles, one after the other.  A tile that does not fit is
refused and leaves no trace.  So the cells of a grid tell which tiles it has taken, and those with a
name are found at their origins, in the order in which the cells are listed.

* `Fabric.history` is the grid after some requests, and `Fabric.accepted` are those that it took.
* `Fabric.put_isAtomic` says that a request that is refused changes no cell.
* `Fabric.history_tells_tiles` says what a grid shows after any history.
-/

namespace NocRouting

namespace Fabric

/-- Put a tile on the grid, as is asked for. -/
def put (r : TileRequest) : Steps Fabric Unit :=
  place r.type r.x r.y r.layer

/-- What a request leaves of a grid, whether it is accepted or refused. -/
def after (f : Fabric) (r : TileRequest) : Fabric :=
  Steps.left (put r f)

/-- The grid after some tiles have been asked for. -/
def history (f : Fabric) (requests : List TileRequest) : Fabric :=
  requests.foldl after f

/-- The requests that are accepted in a history. -/
def accepted (f : Fabric) : List TileRequest → List TileRequest
  | [] => []
  | r :: requests =>
    match put r f with
    | .ok _ f' => r :: f'.accepted requests
    | .error _ f' => f'.accepted requests

/-- The requests that are accepted are accepted one after the other. -/
lemma accepted_cons (f : Fabric) (r : TileRequest) (requests : List TileRequest) :
    f.accepted (r :: requests) = f.accepted [r] ++ (f.after r).accepted requests := by
  rw [accepted, accepted, after]
  cases put r f <;> rfl

/-- A request that is refused leaves the table as it was, as nothing is written before all cells have
been looked at. -/
theorem put_isAtomic (f : Fabric) (r : TileRequest) : Steps.IsAtomic (put r) f := by
  refine Steps.IsAtomic.lift_bind fun _ => Steps.IsAtomic.lift_bind fun left =>
    Steps.IsAtomic.lift_bind fun bottom => Steps.IsAtomic.lift_bind fun covered => ?_
  intro fault f' hrefused
  have hloop := forM_requireFree (f := f) r.type [r.x, r.y, r.layer] r.layer covered
  cases hfound : (covered.map (cell r.layer)).findSome? fun p =>
      (f.cells.find p).map (p, ·) with
  | some found =>
    rw [hfound] at hloop
    rw [Steps.bind_of_error hloop] at hrefused
    exact (EStateM.Result.error.inj hrefused).2.symm
  | none =>
    rw [hfound] at hloop
    rw [Steps.bind_of_ok hloop, forM_set] at hrefused
    cases hrefused

end Fabric

namespace Grid

variable {g : Grid} {rs requests : List TileRequest} {r : TileRequest}

/-- A request leaves a grid as it should be kept: with the tile, if it is accepted, and as it was
otherwise. -/
lemma exists_after (h : g.IsFilled rs) (hr : r.IsWhole) :
    ∃ g' : Grid, g.fabric.after r = g'.fabric ∧ g'.IsFilled (rs ++ g.fabric.accepted [r]) ∧
      g'.width = g.width ∧ g'.height = g.height ∧ g'.layers = g.layers := by
  have hend := fabric_put h hr
  cases hput : g.put r with
  | ok g' =>
    rw [hput] at hend
    have haccepted : g.fabric.accepted [r] = [r] := by
      rw [Fabric.accepted, Fabric.put, hend]
      rfl
    rw [haccepted]
    exact ⟨g', congrArg Steps.left hend, h.of_put hr hput⟩
  | error fault =>
    rw [hput] at hend
    have haccepted : g.fabric.accepted [r] = [] := by
      rw [Fabric.accepted, Fabric.put, hend]
      rfl
    rw [haccepted, List.append_nil]
    exact ⟨g, congrArg Steps.left hend, h, rfl, rfl, rfl⟩

/-- A history leaves a grid as it should be kept, with the tiles before and those that it took. -/
theorem exists_history (h : g.IsFilled rs) (hrequests : ∀ r ∈ requests, r.IsWhole) :
    ∃ g' : Grid, g.fabric.history requests = g'.fabric ∧
      g'.IsFilled (rs ++ g.fabric.accepted requests) ∧
      g'.width = g.width ∧ g'.height = g.height ∧ g'.layers = g.layers := by
  induction requests generalizing g rs with
  | nil =>
    refine ⟨g, rfl, ?_, rfl, rfl, rfl⟩
    rw [Fabric.accepted, List.append_nil]
    exact h
  | cons r requests ih =>
    obtain ⟨hr, hlater⟩ := List.forall_mem_cons.1 hrequests
    obtain ⟨g₁, hafter, hfilled₁, hwidth₁, hheight₁, hlayers₁⟩ := exists_after h hr
    obtain ⟨g₂, hhistory, hfilled₂, hwidth₂, hheight₂, hlayers₂⟩ := ih hfilled₁ hlater
    refine ⟨g₂, ?_, ?_, hwidth₂.trans hwidth₁, hheight₂.trans hheight₁, hlayers₂.trans hlayers₁⟩
    · show (g.fabric.after r).history requests = _
      rw [hafter, hhistory]
    · rw [Fabric.accepted_cons, hafter, ← List.append_assoc]
      exact hfilled₂

/-- Which cells there are depends on the size of a grid only. -/
lemma contains_congr {g g' : Grid} (hwidth : g'.width = g.width) (hheight : g'.height = g.height)
    (hlayers : g'.layers = g.layers) {x y layer : Int} :
    g'.Contains x y layer ↔ g.Contains x y layer := by
  constructor
  · rintro ⟨hleft, hright, hbottom, htop, hlowest, hhighest⟩
    exact ⟨hleft, hwidth ▸ hright, hbottom, hheight ▸ htop, hlowest, hlayers ▸ hhighest⟩
  · rintro ⟨hleft, hright, hbottom, htop, hlowest, hhighest⟩
    exact ⟨hleft, hwidth ▸ hright, hbottom, hheight ▸ htop, hlowest, hlayers ▸ hhighest⟩

end Grid

namespace Fabric

/-- After any history, a grid takes a tile exactly if that lies on it and has no cell in common with
the tiles that it took before, and is not changed by one that it refuses.  Its cells show those
tiles, and nothing else.  The tiles with a name are found at their origins, each once, layer by
layer, column by column and row by row, unless empty cells have that name too. -/
theorem history_tells_tiles {width height layers : Value}
    (hsize : (Grid.bare width height layers).HasWholeSize) {requests : List TileRequest}
    (h : ∀ r ∈ requests, r.IsWhole) :
    let f := (bare width height layers).history requests
    let placed := (bare width height layers).accepted requests
    let bounds := Grid.bare width height layers
    (∀ r : TileRequest, r.IsWhole →
      ((∃ f', put r f = .ok () f') ↔ (∀ x y layer, r.Covers x y layer → bounds.Contains x y layer) ∧
        ∀ s ∈ placed, ∀ x y layer, ¬ (r.Covers x y layer ∧ s.Covers x y layer))) ∧
    (∀ r fault f', put r f = .error fault f' → f' = f) ∧
    (∀ r ∈ placed, ∀ x y layer, r.Covers x y layer →
      f.lookup [.int x, .int y, .int layer] =
        .ok ⟨r.type, .int (x - r.x.whole), .int (y - r.y.whole)⟩) ∧
    (∀ x y layer, bounds.Contains x y layer → (∀ r ∈ placed, ¬ r.Covers x y layer) →
      f.lookup [.int x, .int y, .int layer] = .ok .empty) ∧
    ∀ name, TileType.empty.name.eqv name = false → ∃ sites, f.tilesNamed name = .ok sites ∧
      sites.Perm ((placed.filter fun r => r.type.name.eqv name).map TileRequest.site) ∧
      sites.Pairwise fun s s' => s.position.turn < s'.position.turn := by
  intro f placed bounds
  have hbare : (Grid.bare width height layers).IsFilled [] :=
    ⟨hsize, rfl, by simp, by simp, List.Pairwise.nil⟩
  obtain ⟨g, hf, hfilled, hwidth, hheight, hlayers⟩ := Grid.exists_history hbare h
  change f = g.fabric at hf
  change g.IsFilled placed at hfilled
  have hcontains : ∀ {x y layer}, g.Contains x y layer ↔ bounds.Contains x y layer :=
    Grid.contains_congr hwidth hheight hlayers
  rw [hf]
  refine ⟨fun r hr => ⟨?_, ?_⟩, fun r fault f' => put_isAtomic _ r fault f', ?_, ?_, ?_⟩
  · rintro ⟨f', hput⟩
    have hend := Grid.fabric_put hfilled hr
    cases hplaced : g.put r with
    | ok g' =>
      obtain ⟨hinside, hapart⟩ := hfilled.fits_of_put hr hplaced
      exact ⟨fun x y layer hcovers => hcontains.1 (hinside x y layer hcovers), hapart⟩
    | error fault =>
      rw [hplaced] at hend
      cases hend.symm.trans hput
  · rintro ⟨hinside, hapart⟩
    have hin : ∀ x y layer, r.Covers x y layer → g.Contains x y layer :=
      fun x y layer hcovers => hcontains.2 (hinside x y layer hcovers)
    have hend := Grid.fabric_put hfilled hr
    rw [hfilled.put_eq hr ⟨hin, hapart⟩] at hend
    exact ⟨_, hend⟩
  · intro r hr x y layer hcovers
    rw [Grid.lookup_fabric hfilled (hfilled.inside r hr x y layer hcovers),
      hfilled.cellAt_of_covers hr hcovers]
    rfl
  · intro x y layer hin hfree
    rw [Grid.lookup_fabric hfilled (hcontains.2 hin), hfilled.cellAt_of_not_covers hfree]
  · intro name hname
    rw [Grid.tilesNamed_fabric hfilled]
    exact Grid.tilesNamed_eq hfilled hname

/-- Tiles for two layers with four columns and three rows.  The second one has a cell in common with
the first, the third and the last reach over the edge. -/
def crowd : List TileRequest :=
  let wide : TileType := ⟨.text "router", .int 2, .int 2⟩
  let small : TileType := ⟨.text "router", .bool true, .int 1⟩
  let tall : TileType := ⟨.text "pad", .int 1, .int 3⟩
  [⟨wide, .int 1, .int 0, .int 0⟩, ⟨small, .int 2, .int 1, .bool false⟩,
    ⟨tall, .int 3, .int 1, .int 0⟩, ⟨tall, .int 0, .int 0, .int 0⟩,
    ⟨small, .int 2, .int 1, .bool true⟩, ⟨small, .int 3, .int 0, .int 0⟩,
    ⟨wide, .int (-1), .int 0, .int 1⟩]

/-- The crowd leaves four tiles, three of which have the same name. -/
theorem crowd_tells_tiles :
    let f := (bare (.int 4) (.int 3) (.int 2)).history crowd
    let placed := (bare (.int 4) (.int 3) (.int 2)).accepted crowd
    (Grid.bare (.int 4) (.int 3) (.int 2)).HasWholeSize ∧ (∀ r ∈ crowd, r.IsWhole) ∧
      placed.map (fun r => (r.layer.whole, r.x.whole, r.y.whole)) =
        [(0, 1, 0), (0, 0, 0), (1, 2, 1), (0, 3, 0)] ∧
      f.lookup [.int 2, .int 1, .int 0] =
        .ok ⟨⟨.text "router", .int 2, .int 2⟩, .int 1, .int 1⟩ ∧
      f.lookup [.int 3, .int 1, .int 0] = .ok .empty ∧
      ∃ sites, f.tilesNamed (.text "router") = .ok sites ∧
        sites.Perm ((placed.filter fun r => r.type.name.eqv (.text "router")).map
          TileRequest.site) ∧
        sites.map (fun s => (s.position.layer.whole, s.position.x.whole, s.position.y.whole)) =
          [(0, 1, 0), (0, 3, 0), (1, 2, 1)] := by
  intro f placed
  have hsize : (Grid.bare (.int 4) (.int 3) (.int 2)).HasWholeSize := ⟨rfl, rfl, rfl⟩
  have hwhole : ∀ r ∈ crowd, r.IsWhole := by
    simp only [crowd, List.forall_mem_cons, List.not_mem_nil, false_implies, implies_true, and_true]
    refine ⟨?_, ?_, ?_, ?_, ?_, ?_, ?_⟩ <;> exact ⟨rfl, rfl, rfl, rfl, rfl, rfl⟩
  have hplaced : placed.map (fun r => (r.layer.whole, r.x.whole, r.y.whole)) =
      [(0, 1, 0), (0, 0, 0), (1, 2, 1), (0, 3, 0)] := by
    decide +kernel
  obtain ⟨-, -, hcovered, hfree, hfound⟩ := history_tells_tiles hsize hwhole
  refine ⟨hsize, hwhole, hplaced, ?_, ?_, ?_⟩
  · have hfirst : placed[0]? = some ⟨⟨.text "router", .int 2, .int 2⟩, .int 1, .int 0, .int 0⟩ := by
      rfl
    exact hcovered _ (List.mem_of_getElem? hfirst) 2 1 0 (by decide)
  · exact hfree 3 1 0 ⟨by decide, by decide, by decide, by decide, by decide, by decide⟩
      (by decide +kernel)
  · have hrun : (f.tilesNamed (.text "router")).toOption.map (fun sites => sites.map
        fun s => (s.position.layer.whole, s.position.x.whole, s.position.y.whole)) =
        some [(0, 1, 0), (0, 3, 0), (1, 2, 1)] := by
      decide +kernel
    obtain ⟨sites, hsites, horder⟩ := Except.exists_of_toOption_map hrun
    obtain ⟨sites', hsites', hperm, -⟩ := hfound (.text "router") (by decide +kernel)
    obtain rfl := Except.ok.inj (hsites.symm.trans hsites')
    exact ⟨sites, hsites, hperm, horder⟩

end Fabric

end NocRouting
