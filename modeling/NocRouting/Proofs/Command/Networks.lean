import NocRouting.Proofs.Faults
import NocRouting.Proofs.Realisation.Exactness

/-!
# Realising described networks

Realising an architecture on a device fails with an ordinary fault, unless the intended position of a
router has lists for coordinates: their figures are taken in rows, and then there may be more
distances than tiles.

* `LogicalRouter.HasPoint` says that an intended position has no lists for coordinates.
* `Topology.realise_eq_error` says with what faults realising an architecture fails.
-/

namespace NocRouting

open Fault (IsOrdinary)

/-! ### Distances -/

/-- No coordinate of the intended position is a list. -/
def LogicalRouter.HasPoint (r : LogicalRouter) : Prop :=
  ∀ v ∈ [r.x, r.y, r.layer], Block.items? v = none

namespace Realisation

variable {tiles : List TileSite} {r : LogicalRouter}

lemma failsOnly_coordinate {v : Value} : FailsOnly IsOrdinary v.coordinate := by
  unfold Value.coordinate
  split
  · exact .ok _
  · split
    · exact .ok _
    · exact .error isOrdinary_refused
  · exact failsOnly_asFloat

lemma failsOnly_distances : FailsOnly IsOrdinary (distances tiles r) := by
  refine .bind ?_ fun place _ => ?_
  · refine .bind Block.failsOnly_ofValues fun values _ => ?_
    exact Block.failsOnly_mapM fun _ => failsOnly_coordinate
  · exact .bind Block.failsOnly_zip fun apart _ => .pure _

/-- An intended position without lists is a row of three figures. -/
lemma sizes_of_intended (hr : r.HasPoint) {b : Block Float} (h : intended r = .ok b) :
    b.sizes = [3] := by
  obtain ⟨values, hvalues, hmap⟩ := Except.bind_eq_ok.1 h
  obtain ⟨figures, -, hpure⟩ := Except.bind_eq_ok.1 hmap
  obtain rfl := Except.pure_eq_ok.1 hpure
  obtain ⟨⟨sizes, inner⟩, hmeasure, hpure⟩ := Except.bind_eq_ok.1 hvalues
  obtain rfl := Except.pure_eq_ok.1 hpure
  have hx := hr r.x (by simp)
  have hy := hr r.y (by simp)
  have hlayer := hr r.layer (by simp)
  have hplain : Block.measure (Block.maxLevels - 1) [3] [r.x, r.y, r.layer] =
      .ok ([3], [r.x, r.y, r.layer]) := by
    unfold Block.measure
    simp [hx, hy, hlayer, Block.maxLevels]
  obtain ⟨rfl, -⟩ := Prod.mk.inj (Except.ok.inj (hmeasure.symm.trans hplain))
  rfl

/-- Then there is a distance for every tile. -/
lemma sizes_of_distances (hr : r.HasPoint) {ds : Block Float} (h : distances tiles r = .ok ds) :
    ds.sizes = [tiles.length] ∧ ds.figures.toList.length = tiles.length := by
  obtain ⟨place, hplace, hrest⟩ := Except.bind_eq_ok.1 h
  obtain ⟨apart, hapart, hpure⟩ := Except.bind_eq_ok.1 hrest
  obtain rfl := Except.pure_eq_ok.1 hpure
  have hsizes := sizes_of_intended hr hplace
  have hcommon : Block.commonSizes? (centres tiles) place = some [tiles.length, 3] := by
    simp [Block.commonSizes?, centres, hsizes, Block.commonSize?]
  rw [Block.zip, hcommon] at hapart
  obtain rfl := Except.ok.inj hapart
  simp [Block.map, Block.sumRows, Block.tabulate, Block.places]

/-! ### Choices -/

lemma leastIndex?_lt {ds : List Float} {i : Nat} (h : leastIndex? ds = some i) : i < ds.length := by
  induction ds generalizing i with
  | nil => cases h
  | cons d ds ih =>
    rw [leastIndex?] at h
    rw [List.length_cons]
    split at h
    · next j hj =>
      have hlt := ih hj
      split at h
      · obtain rfl := Option.some.inj h
        omega
      · obtain rfl := Option.some.inj h
        omega
    · obtain rfl := Option.some.inj h
      omega

lemma lt_of_mem_tieIndices {ds row : Block Float} {i : Nat} (h : i ∈ tieIndices ds row) :
    i < (Block.places ds.sizes).length := by
  obtain ⟨⟨place, j⟩, hmem, hj⟩ := List.mem_filterMap.1 h
  have hlt := (List.mk_mem_zipIdx_iff_getElem?.1 hmem)
  dsimp only at hj
  split at hj
  · obtain rfl := Option.some.inj hj
    exact (List.getElem?_eq_some_iff.1 hlt).1
  · cases hj

lemma failsOnly_tileAt {P : Fault → Prop} {i : Nat} (h : i < tiles.length ∨ P (.range .index)) :
    FailsOnly P (tileAt tiles i) := by
  unfold tileAt
  split
  · exact .ok _
  · next hnone =>
    rcases h with hi | hP
    · rw [List.getElem?_eq_getElem hi] at hnone
      cases hnone
    · exact .error hP

/-- A row is there if its number is less than that of the rows. -/
lemma failsOnly_row {P : Fault → Prop} {ds : Block Float} {i n : Nat}
    (h : ds.sizes = [n] ∧ i < n ∨ ∀ cause, P (.range cause)) : FailsOnly P (ds.row i) := by
  unfold Block.row
  rcases h with ⟨hsizes, hi⟩ | hrange
  · rw [hsizes]
    dsimp only
    rw [if_pos hi]
    exact .ok _
  · split
    · exact .ite (fun _ => .ok _) fun _ => .error (hrange _)
    · exact .error (hrange _)

/-- Choosing a tile fails with an ordinary fault, or for want of a tile or a row, which there is if
there is one distance for every tile. -/
lemma failsOnly_choose {P : Fault → Prop} (hP : ∀ fault, IsOrdinary fault → P fault)
    (h : r.HasPoint ∨ ∀ cause, P (.range cause)) : FailsOnly P (choose tiles r) := by
  refine .bind (failsOnly_distances.mono hP) fun ds hds => ?_
  split
  · exact .throw (hP _ isOrdinary_refused)
  next nearest hnearest =>
  -- all the numbers in question are numbers of tiles
  have htile : ∀ i < (Block.places ds.sizes).length, i < tiles.length ∨ P (.range .index) := by
    intro i hi
    rcases h with hr | hrange
    · rw [(sizes_of_distances hr hds).1, Block.length_places_cons] at hi
      exact .inl (by simpa [Block.places] using hi)
    · exact .inr (hrange _)
  have hlast : nearest < tiles.length ∨ P (.range .index) := by
    rcases h with hr | hrange
    · have hlt := leastIndex?_lt hnearest
      rw [(sizes_of_distances hr hds).2] at hlt
      exact .inl hlt
    · exact .inr (hrange _)
  have hrow : FailsOnly P (ds.row nearest) := by
    refine failsOnly_row (n := tiles.length) ?_
    rcases h with hr | hrange
    · obtain ⟨hsizes, hlength⟩ := sizes_of_distances hr hds
      have hlt := leastIndex?_lt hnearest
      rw [hlength] at hlt
      exact .inl ⟨hsizes, hlt⟩
    · exact .inr hrange
  refine .bind hrow fun row _ => ?_
  split
  · next i j rest hties =>
    have hi : i ∈ tieIndices ds row := by
      rw [hties]
      exact List.mem_cons_self
    have hj : j ∈ tieIndices ds row := by
      rw [hties]
      exact List.mem_cons_of_mem i List.mem_cons_self
    refine .bind (failsOnly_tileAt (htile i (lt_of_mem_tieIndices hi))) fun a _ => ?_
    refine .bind (failsOnly_tileAt (htile j (lt_of_mem_tieIndices hj))) fun b _ => ?_
    exact .throw (hP _ isOrdinary_configuration)
  · exact failsOnly_tileAt hlast

end Realisation

/-! ### Networks that grow -/

namespace Topology

variable {t : Topology}

lemma failsOnly_addRouter {id : Value} {position : Position} (hbuilt : t.compressed = none) :
    FailsOnly IsOrdinary (t.addRouter id position) := by
  rw [addRouter, requireUnbuilt_eq hbuilt, Except.ok_bind]
  refine .bind failsOnly_asKey fun id' _ => ?_
  refine .ite (fun _ => .throw_bind isOrdinary_configuration) fun _ => ?_
  refine .bind failsOnly_positionAsKey fun position' _ => ?_
  split
  · exact .throw_bind isOrdinary_configuration
  · exact .pure _

lemma failsOnly_directionBetween {a b : Router} : FailsOnly IsOrdinary (directionBetween a b) := by
  refine .bind failsOnly_minus fun dx _ => ?_
  refine .bind failsOnly_minus fun dy _ => ?_
  refine .ite (fun _ => .pure _) fun _ => ?_
  split
  · exact .pure _
  · exact .throw isOrdinary_configuration

lemma failsOnly_routerWithId {id : Value} : FailsOnly IsOrdinary (t.routerWithId id) := by
  refine .bind failsOnly_asKey fun id' _ => ?_
  split
  · exact .pure _
  · exact .throw isOrdinary_configuration

/-- Between routers that exist, a link is added or refused. -/
lemma failsOnly_addLink {i j : Nat} {a b : Router} (hbuilt : t.compressed = none)
    (ha : t.routers[i]? = some a) (hb : t.routers[j]? = some b) :
    FailsOnly IsOrdinary (t.addLink (.int i) (.int j)) := by
  have hi := (List.getElem?_eq_some_iff.1 ha).1
  have hj := (List.getElem?_eq_some_iff.1 hb).1
  simp only [addLink, requireUnbuilt_eq hbuilt, requireRouter_eq hi, requireRouter_eq hj,
    Index.ofValue_int, Index.value_number, routerAtIndex_eq ha, routerAtIndex_eq hb, Except.ok_bind]
  refine .ite (fun _ => .throw_bind isOrdinary_configuration) fun _ => ?_
  exact .bind failsOnly_directionBetween fun direction _ => .pure _

/-- The links of a declared router are only ever added between routers that exist. -/
lemma failsOnly_addLinksOf {r : LogicalRouter} (ht : t.Reachable) (hbuilt : t.compressed = none) :
    FailsOnly IsOrdinary (Realisation.addLinksOf t r) := by
  rw [Realisation.addLinksOf_eq]
  refine .bind failsOnly_routerWithId fun source hsource => ?_
  obtain ⟨p, hp, -⟩ := ht.routerWithId_eq_ok_iff.1 hsource
  let I (s : Topology) : Prop := s.Reachable ∧ s.compressed = none ∧ s.routers = t.routers
  refine .foldlM (I := I) ⟨ht, hbuilt, rfl⟩ fun id _ s hs => ?_
  obtain ⟨hreachable, hnone, hrouters⟩ := hs
  constructor
  · refine .bind failsOnly_routerWithId fun sink hsink => ?_
    obtain ⟨q, hq, -⟩ := hreachable.routerWithId_eq_ok_iff.1 hsink
    rw [← hrouters] at hp
    exact .bind (failsOnly_addLink hnone hp hq) fun added _ => .pure _
  · intro s' hs'
    obtain ⟨sink, -, l, hadd⟩ := Realisation.addLinkTo_eq_ok.1 hs'
    obtain ⟨_, _, _, _, _, -, -, -, -, -, -, -, -, -, -, rfl⟩ := addLink_eq_ok hadd
    exact ⟨.addLink _ _ hreachable hadd, hnone, hrouters⟩

lemma failsOnly_addLinks {rs : List LogicalRouter} (ht : t.Reachable)
    (hbuilt : t.compressed = none) :
    FailsOnly IsOrdinary (rs.foldlM Realisation.addLinksOf t) := by
  let I (s : Topology) : Prop := s.Reachable ∧ s.compressed = none
  refine .foldlM (I := I) ⟨ht, hbuilt⟩ fun r _ s hs => ⟨failsOnly_addLinksOf hs.1 hs.2, ?_⟩
  intro s' hs'
  obtain ⟨hreachable, links, rfl, -⟩ := Realisation.hasAdded_of_addLinksOf hs.1 hs'
  exact ⟨hreachable, hs.2⟩

lemma failsOnly_finish (hbuilt : t.compressed = none) : FailsOnly IsOrdinary t.finish := by
  rw [finish, requireUnbuilt_eq hbuilt, Except.ok_bind]
  exact .ite (fun _ => .pure _) fun _ => .throw_bind isOrdinary_mismatch

/-! ### Realising -/

/-- Adding routers fails only as choosing tiles for them does, apart from ordinary faults. -/
lemma failsOnly_addRouters {P : Fault → Prop} {tiles : List TileSite} {rs : List LogicalRouter}
    {taken : List (Position × Value)} (hP : ∀ fault, IsOrdinary fault → P fault)
    (hchoose : ∀ r ∈ rs, FailsOnly P (Realisation.choose tiles r)) (hbuilt : t.compressed = none) :
    FailsOnly P (Realisation.addRouters tiles rs taken t) := by
  induction rs generalizing taken t with
  | nil => exact .pure t
  | cons r rs ih =>
    refine .bind (hchoose r List.mem_cons_self) fun s _ => ?_
    split
    · exact .throw_bind (hP _ isOrdinary_configuration)
    · refine .bind ((failsOnly_addRouter hbuilt).mono hP) fun ⟨t', q⟩ hadd => ?_
      obtain ⟨-, -, -, -, -, -, rfl⟩ := addRouter_eq_ok hadd
      exact ih (fun r' hr' => hchoose r' (List.mem_cons_of_mem r hr')) hbuilt

variable {a : Architecture} {g : Grid} {tiles : List TileSite}

lemma failsOnly_tilesNamed {name : Value} : FailsOnly IsOrdinary (g.tilesNamed name) := by
  have hcoordinates : ∀ bound, FailsOnly IsOrdinary (Grid.coordinates bound) := by
    intro bound
    unfold Grid.coordinates
    split
    · exact .ok _
    · exact .error isOrdinary_mismatch
  have hcells : FailsOnly IsOrdinary g.cells := by
    refine .bind (hcoordinates _) fun layers _ => ?_
    refine .bind (.mapM fun layer _ => ?_) fun cells _ => .pure _
    refine .bind (hcoordinates _) fun xs _ => ?_
    refine .bind (.mapM fun x _ => ?_) fun columns _ => .pure _
    exact .bind (hcoordinates _) fun rows _ => .pure _
  exact .bind hcells fun cells _ => .pure _

lemma failsOnly_checkCounts : FailsOnly IsOrdinary (Realisation.checkCounts a tiles) := by
  refine .ite (fun _ => .throw_bind isOrdinary_configuration) fun _ => ?_
  refine .ite (fun _ => .throw_bind isOrdinary_configuration) fun _ => ?_
  exact .ite (fun _ => .throw isOrdinary_configuration) fun _ => .pure _

/-- Realising an architecture fails with an ordinary fault, unless the intended position of a router
has lists for coordinates. -/
theorem realise_eq_error {fault : Fault} (h : realise a g = .error fault) : IsOrdinary fault ∨
    (∃ cause, fault = .range cause) ∧ ∃ r ∈ a.routers, ¬ r.HasPoint := by
  revert fault
  let P (fault : Fault) : Prop := IsOrdinary fault ∨
    (∃ cause, fault = .range cause) ∧ ∃ r ∈ a.routers, ¬ r.HasPoint
  have hP : ∀ fault, IsOrdinary fault → P fault := fun _ => .inl
  show FailsOnly P (realise a g)
  refine .bind (failsOnly_tilesNamed.mono hP) fun tiles _ => ?_
  refine .bind (failsOnly_checkCounts.mono hP) fun _ _ => ?_
  refine .bind (failsOnly_addRouters hP (fun r hr => ?_) rfl) fun t₁ ht₁ => ?_
  · refine Realisation.failsOnly_choose hP ?_
    by_cases hpoint : r.HasPoint
    · exact .inl hpoint
    · exact .inr fun cause => .inr ⟨⟨cause, rfl⟩, r, hr, hpoint⟩
  obtain ⟨hreachable, added, rfl, -⟩ := Realisation.exists_of_addRouters (.bare _ _ _) ht₁
  refine .bind ((failsOnly_addLinks hreachable rfl).mono hP) fun t₂ ht₂ => ?_
  obtain ⟨-, links, rfl, -⟩ := Realisation.hasAdded_of_addLinks hreachable ht₂
  exact (failsOnly_finish rfl).mono hP

/-- The links of a network have the bandwidth that its architecture says. -/
lemma linkBandwidth_of_realise (h : realise a g = .ok t) : t.linkBandwidth = a.linkBandwidth := by
  obtain ⟨tiles, -, -, -, t₁, ht₁, t₂, ht₂, hfinish⟩ := realise_eq_ok_iff.1 h
  obtain ⟨hreachable, added, rfl, -⟩ := Realisation.exists_of_addRouters (.bare _ _ _) ht₁
  obtain ⟨-, links, rfl, -⟩ := Realisation.hasAdded_of_addLinks hreachable ht₂
  obtain ⟨-, -, rfl⟩ := finish_eq_ok hfinish
  rfl

end Topology

end NocRouting
