import Mathlib.Data.List.Perm.Subperm
import NocRouting.Proofs.Realisation.Linking
import NocRouting.Proofs.Realisation.Placement

/-!
# Networks realise their architectures

A network that is realised on a device has the declared routers, in the order of their declaration,
on all the router tiles of the device, one on each, and the declared connections as its links, in the
order of their declaration.  Nothing is said about where a router should be: whatever it declares, it
ends up on some tile, and no tile is left over since there are as many tiles as routers.

* `Architecture.connections` are the declared connections.
* `Topology.IsRealisation` says what a network has to do with an architecture and some tiles, and
  `Topology.realise_isRealisation` that it does.
-/

namespace NocRouting

/-- The declared connections, router by router: the number of the router that declares it and the
identifier of the router that it leads to. -/
def Architecture.connections (a : Architecture) : List (Nat × Value) :=
  a.routers.zipIdx.flatMap fun (r, i) => r.connections.map fun id => (i, id)

/-- The position is the one at a location given by a user, which lies on the lowest layer if it does
not say otherwise. -/
def Position.IsAt (p : Position) : List Value → Prop
  | [x, y] => p.same ⟨x, y, .int 0⟩ = true
  | [x, y, layer] => p.same ⟨x, y, layer⟩ = true
  | _ => False

namespace Topology

variable {a : Architecture} {g : Grid} {tiles : List TileSite} {t : Topology}

/-! ### What is built -/

lemma checkCounts_eq_ok {u : Unit} : Realisation.checkCounts a tiles = .ok u ↔
    tiles ≠ [] ∧ tiles.length = a.routers.length := by
  rw [← List.length_pos_iff]
  unfold Realisation.checkCounts
  dsimp only
  by_cases hnone : tiles.length = 0
  · rw [if_pos hnone]
    refine ⟨fun h => absurd h Except.throw_bind_ne_ok, ?_⟩
    rintro ⟨hpos, -⟩
    omega
  rw [if_neg hnone]
  by_cases hmany : tiles.length < a.routers.length
  · rw [if_pos hmany]
    refine ⟨fun h => absurd h Except.throw_bind_ne_ok, ?_⟩
    rintro ⟨-, hlength⟩
    omega
  rw [if_neg hmany]
  by_cases hfew : a.routers.length < tiles.length
  · rw [if_pos hfew]
    refine ⟨fun h => absurd h Except.throw_ne_ok, ?_⟩
    rintro ⟨-, hlength⟩
    omega
  rw [if_neg hfew]
  refine ⟨fun _ => ⟨?_, ?_⟩, fun _ => rfl⟩
  · omega
  · omega

/-- The steps in which a network is realised. -/
lemma realise_eq_ok_iff : realise a g = .ok t ↔ ∃ tiles, g.tilesNamed a.routerTile = .ok tiles ∧
    tiles ≠ [] ∧ tiles.length = a.routers.length ∧ ∃ t₁, Realisation.addRouters tiles a.routers []
      (bare a.linkBandwidth a.linkLatency a.routerLatency) = .ok t₁ ∧
      ∃ t₂, a.routers.foldlM Realisation.addLinksOf t₁ = .ok t₂ ∧ t₂.finish = .ok t := by
  simp only [realise, Except.bind_eq_ok, checkCounts_eq_ok, exists_const, and_assoc]

/-- The routers of a network that is realised are where the declared ones belong, and its links join
what the declared ones should join. -/
lemma exists_of_realise (h : realise a g = .ok t) : ∃ tiles, g.tilesNamed a.routerTile = .ok tiles ∧
    tiles ≠ [] ∧ tiles.length = a.routers.length ∧ t.IsCharted ∧
    List.Forall₂ (Realisation.Hosts tiles) a.routers t.routers ∧
    List.Forall₂ t.Joins (a.routers.flatMap LogicalRouter.ends) t.links := by
  obtain ⟨tiles, htiles, hne, hlength, t₁, ht₁, t₂, ht₂, hfinish⟩ := realise_eq_ok_iff.1 h
  have hsites := Grid.areSites htiles
  obtain ⟨hreachable₁, added, rfl, hhosts⟩ := Realisation.exists_of_addRouters (.bare _ _ _) ht₁
  obtain ⟨hreachable₂, links, rfl, hjoins⟩ := Realisation.hasAdded_of_addLinks hreachable₁ ht₂
  obtain ⟨-, -, rfl⟩ := finish_eq_ok hfinish
  refine ⟨tiles, htiles, hne, hlength, ⟨.finish hreachable₂ hfinish, rfl, ?_⟩, hhosts, hjoins⟩
  intro q hq
  obtain ⟨r, -, -, s, hs, hplace⟩ := exists_left_of_mem hhosts hq
  rw [hplace]
  exact hsites.whole s (Realisation.mem_of_choose hs)

/-! ### Every tile is used -/

/-- As many routers as there are tiles use them all, if they choose different ones. -/
lemma perm_of_hosts {rs : List LogicalRouter} {qs : List Router}
    (hrs : Realisation.Placeable tiles rs) (hlength : tiles.length = rs.length)
    (h : List.Forall₂ (Realisation.Hosts tiles) rs qs) :
    (qs.map (·.position)).Perm (tiles.map (·.position)) := by
  obtain ⟨chosen, hchosen⟩ := exists_forall₂ hrs.chosen
  have hpositions : qs.map (·.position) = chosen.map (·.position) := by
    rw [← List.forall₂_eq_eq_eq, List.forall₂_map_left_iff, List.forall₂_map_right_iff]
    refine (forall₂_of_same h hchosen).imp ?_
    rintro q s ⟨r, ⟨-, s', hs', hq⟩, hs⟩
    obtain rfl := Except.ok.inj (hs'.symm.trans hs)
    exact hq
  have hnodup : chosen.Nodup := by
    refine pairwise_of_forall₂ hchosen.flip ?_ hrs.apart
    rintro s s' r r' hs hs' ⟨-, hne⟩ rfl
    exact hne (hs.trans hs'.symm)
  have hsub : chosen ⊆ tiles := by
    intro s hs
    obtain ⟨r, -, hr⟩ := exists_left_of_mem hchosen hs
    exact Realisation.mem_of_choose hr
  have hle : tiles.length ≤ chosen.length := by
    rw [hlength, hchosen.length_eq]
  rw [hpositions]
  exact ((hnodup.subperm hsub).perm_of_length_le hle).map _

/-! ### Every connection is a link -/

/-- The identifiers that links should join, and the connections they were declared by. -/
lemma forall₂_connections : List.Forall₂ (fun ends (connection : Nat × Value) =>
      ends.2 = connection.2 ∧ ∃ r, a.routers[connection.1]? = some r ∧ ends.1 = r.id)
    (a.routers.flatMap LogicalRouter.ends) a.connections := by
  have hflat : a.routers.flatMap LogicalRouter.ends =
      a.routers.zipIdx.flatMap fun (r, i) => r.ends := by
    conv_lhs => rw [← List.zipIdx_map_fst 0 a.routers, List.flatMap_map]
  rw [hflat, Architecture.connections]
  refine forall₂_flatMap ?_
  rintro ⟨r, i⟩ hr
  show List.Forall₂ _ (r.connections.map fun id => (r.id, id)) (r.connections.map fun id => (i, id))
  rw [List.forall₂_map_left_iff, List.forall₂_map_right_iff, List.forall₂_same]
  intro id _
  exact ⟨rfl, r, List.mk_mem_zipIdx_iff_getElem?.1 hr, rfl⟩

/-! ### Realisations -/

/-- A network has the declared routers, one on every tile, and the declared connections as its
links. -/
structure IsRealisation (t : Topology) (a : Architecture) (tiles : List TileSite) : Prop where
  ids : t.routers.map (·.id) = a.routers.map (·.id)
  /-- Every tile holds a router. -/
  positions : (t.routers.map (·.position)).Perm (tiles.map (·.position))
  /-- No two tiles are at the same position. -/
  apart : tiles.Pairwise fun s s' => s.position.same s'.position = false
  links : List.Forall₂ (fun (i, id) l => l.source = i ∧
    ∃ q, t.routers[l.sink]? = some q ∧ q.id.same id = true) a.connections t.links
  /-- Routers are found where the tiles are, and nowhere else. -/
  at_position : ∀ location, (∃ i, t.routerAt location = .ok i) ↔
    ∃ s ∈ tiles, s.position.IsAt location
  charted : t.IsCharted

/-- A router is found at the locations that it is at, and at no others. -/
lemma Reachable.routerAt_eq_ok_iff_isAt (ht : t.Reachable) {location : List Value} {i : Nat} :
    t.routerAt location = .ok i ↔ ∃ q, t.routers[i]? = some q ∧ q.position.IsAt location := by
  match location with
  | [x, y] => exact ht.routerAt_eq_ok_iff
  | [x, y, layer] => exact ht.routerAt_eq_ok_iff
  | [] => simp [routerAt, Position.IsAt]
  | [_] => simp [routerAt, Position.IsAt]
  | _ :: _ :: _ :: _ :: _ => simp [routerAt, Position.IsAt]

/-- A router is found at the locations of the tiles that hold routers. -/
lemma IsCharted.routerAt_iff (ht : t.IsCharted)
    (hpositions : (t.routers.map (·.position)).Perm (tiles.map (·.position)))
    (location : List Value) :
    (∃ i, t.routerAt location = .ok i) ↔ ∃ s ∈ tiles, s.position.IsAt location := by
  simp only [ht.reachable.routerAt_eq_ok_iff_isAt]
  constructor
  · rintro ⟨i, q, hq, hat⟩
    have hmem : q.position ∈ tiles.map (·.position) :=
      hpositions.subset (List.mem_map_of_mem (List.mem_of_getElem? hq))
    obtain ⟨s, hs, hposition⟩ := List.mem_map.1 hmem
    exact ⟨s, hs, hposition ▸ hat⟩
  · rintro ⟨s, hs, hat⟩
    have hmem : s.position ∈ t.routers.map (·.position) :=
      hpositions.symm.subset (List.mem_map_of_mem hs)
    obtain ⟨q, hq, hposition⟩ := List.mem_map.1 hmem
    exact ⟨q.index, q, ht.reachable.getElem?_index hq, hposition ▸ hat⟩

/-- A network that is realised on a device realises the architecture on all the router tiles of the
device, whatever positions the routers are meant to have. -/
theorem realise_isRealisation (h : realise a g = .ok t) :
    ∃ tiles, g.tilesNamed a.routerTile = .ok tiles ∧ t.IsRealisation a tiles := by
  obtain ⟨tiles, htiles, -, hlength, hcharted, hhosts, hjoins⟩ := exists_of_realise h
  have hsites := Grid.areSites htiles
  have hreachable := hcharted.reachable
  have hpositions := perm_of_hosts (Realisation.placeable_of_hosts hsites hreachable hhosts)
    hlength hhosts
  refine ⟨tiles, htiles, ?_, hpositions, hsites.apart, ?_, hcharted.routerAt_iff hpositions,
    hcharted⟩
  · rw [← List.forall₂_eq_eq_eq, List.forall₂_map_left_iff, List.forall₂_map_right_iff]
    exact hhosts.flip.imp fun q r hq => hq.1
  · refine (forall₂_of_same forall₂_connections hjoins).imp ?_
    rintro ⟨i, id⟩ l ⟨⟨declaring, _⟩, ⟨rfl, r, hr, rfl⟩, p, q, hp, hpid, hq, hqid⟩
    refine ⟨?_, q, hq, hqid⟩
    -- the router with the identifier of the declaring one has its number
    obtain ⟨p', hp', hid, -⟩ := exists_getElem?_of_forall₂ hhosts hr
    have hmem := List.mem_of_getElem? hp
    have hmem' := List.mem_of_getElem? hp'
    have hsame : p'.id.same r.id = true := by
      rw [← hid]
      exact Value.same_self (hreachable.isIdentified.idKey p' hmem')
    have heq : p = p' := hreachable.eq_of_id_same hmem hmem' hpid hsame
    calc l.source = p.index := (hreachable.isSound.index_of_getElem? hp).symm
      _ = p'.index := by rw [heq]
      _ = i := hreachable.isSound.index_of_getElem? hp'

end Topology

/-! ### Three routers -/

namespace Corner

/-- A device with three router tiles, in two columns and two rows. -/
def grid : Grid where
  width := .int 5
  height := .int 4
  layers := .int 1
  tiles :=
    let router : TileType := ⟨.text "router", .int 1, .int 1⟩
    [⟨router, .int 4, .int 0, .int 0⟩, ⟨router, .int 0, .int 0, .int 0⟩,
      ⟨router, .int 0, .int 3, .int 0⟩]

/-- Three routers, of which one does not say where it should be. -/
def architecture : Architecture where
  routerTile := .text "router"
  linkBandwidth := .int 64
  linkLatency := .int 1
  routerLatency := .int 1
  routers :=
    [⟨.text "b", .int 3, .int 1, .int 0, [.int 7]⟩,
      ⟨.int 7, .null, .null, .null, [.text "b", .text "a", .text "b"]⟩,
      ⟨.text "a", .int 0, .int 3, .int 0, [.number (.float 7.0)]⟩]

end Corner

namespace Topology

/-- The router that does not say where it should be ends up on the tile that is found first. -/
theorem corner_isRealisation : ∃ t, realise Corner.architecture Corner.grid = .ok t ∧
    (t.routers.map fun q => (q.position.x.whole, q.position.y.whole)) = [(4, 0), (0, 0), (0, 3)] ∧
    (t.links.map fun l => (l.source, l.sink)) = [(0, 1), (1, 0), (1, 2), (1, 0), (2, 1)] ∧
    ∃ tiles, Corner.grid.tilesNamed (.text "router") = .ok tiles ∧
      t.IsRealisation Corner.architecture tiles := by
  have hrun : ((realise Corner.architecture Corner.grid).toOption.map fun t =>
      (t.routers.map fun q => (q.position.x.whole, q.position.y.whole),
        t.links.map fun l => (l.source, l.sink))) =
      some ([(4, 0), (0, 0), (0, 3)], [(0, 1), (1, 0), (1, 2), (1, 0), (2, 1)]) := by
    decide +kernel
  obtain ⟨t, ht, hparts⟩ := Except.exists_of_toOption_map hrun
  obtain ⟨hrouters, hlinks⟩ := Prod.mk.inj hparts
  exact ⟨t, ht, hrouters, hlinks, realise_isRealisation ht⟩

end Topology

end NocRouting
