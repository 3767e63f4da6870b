import NocRouting.Proofs.Realisation.Exactness

/-!
# The order of declarations

Whether an architecture can be realised on a device, and by which network, does not depend on the
order in which it declares its routers, although the routers are put on their tiles one after the
other and the first obstacle ends it.  For the obstacles are the same: a router that has no tile of
its own or no identifier of its own, or a connection that cannot be a link.  None of them has to do
with what was declared before.

* `Topology.exists_realise_iff` says when there is a network that realises an architecture.
* `Topology.realise_perm` says that the order of the declared routers matters neither for this nor
  for the network, apart from how its routers and links are numbered.
-/

namespace NocRouting

namespace Realisation

/-- A link could join the declared routers with two identifiers, when they are on the tiles that they
choose. -/
def Linkable (tiles : List TileSite) (rs : List LogicalRouter) (ends : Value × Value) : Prop :=
  ∃ r ∈ rs, ∃ r' ∈ rs, r.id.same ends.1 = true ∧ r'.id.same ends.2 = true ∧
    ∃ s s' direction, choose tiles r = .ok s ∧ choose tiles r' = .ok s' ∧
      s.position.Heads s'.position direction

/-- Declared routers can be realised on tiles: there are as many of them as tiles, they can be put on
tiles, and links can join them. -/
structure Realisable (tiles : List TileSite) (rs : List LogicalRouter) : Prop where
  ne_nil : tiles ≠ []
  length_eq : tiles.length = rs.length
  placeable : Placeable tiles rs
  linkable : ∀ r ∈ rs, ∀ ends ∈ r.ends, Linkable tiles rs ends

section Order

variable {tiles : List TileSite} {rs rs' : List LogicalRouter}

lemma Placeable.perm (h : Placeable tiles rs) (hperm : rs.Perm rs') : Placeable tiles rs' where
  ids := fun r hr => h.ids r (hperm.symm.subset hr)
  chosen := fun r hr => h.chosen r (hperm.symm.subset hr)
  apart := h.apart.perm hperm fun hne => ⟨hne.1.symm, hne.2.symm⟩

lemma Linkable.mono {ends : Value × Value} (h : Linkable tiles rs ends) (hsub : rs ⊆ rs') :
    Linkable tiles rs' ends := by
  obtain ⟨r, hr, r', hr', hjoin⟩ := h
  exact ⟨r, hsub hr, r', hsub hr', hjoin⟩

/-- The order of the routers does not matter. -/
lemma Realisable.perm (h : Realisable tiles rs) (hperm : rs.Perm rs') : Realisable tiles rs' where
  ne_nil := h.ne_nil
  length_eq := h.length_eq.trans hperm.length_eq
  placeable := h.placeable.perm hperm
  linkable := by
    intro r hr ends hends
    exact (h.linkable r (hperm.symm.subset hr) ends hends).mono hperm.subset

/-- Links could join the routers of a network exactly if they could join the declared ones. -/
lemma canJoin_iff {t : Topology} (h : List.Forall₂ (Hosts tiles) rs t.routers)
    {ends : Value × Value} : t.CanJoin ends ↔ Linkable tiles rs ends := by
  constructor
  · rintro ⟨p, hp, q, hq, hpid, hqid, direction, hheads⟩
    obtain ⟨r, hr, hrid, s, hs, hrp⟩ := exists_left_of_mem h hp
    obtain ⟨r', hr', hrid', s', hs', hrq⟩ := exists_left_of_mem h hq
    rw [hrid] at hpid
    rw [hrid'] at hqid
    rw [hrp, hrq] at hheads
    exact ⟨r, hr, r', hr', hpid, hqid, s, s', direction, hs, hs', hheads⟩
  · rintro ⟨r, hr, r', hr', hrid, hrid', s, s', direction, hs, hs', hheads⟩
    obtain ⟨p, hp, hpid, s₁, hs₁, hps⟩ := exists_right_of_mem h hr
    obtain ⟨q, hq, hqid, s₂, hs₂, hqs⟩ := exists_right_of_mem h hr'
    obtain rfl := Except.ok.inj (hs.symm.trans hs₁)
    obtain rfl := Except.ok.inj (hs'.symm.trans hs₂)
    rw [← hpid] at hrid
    rw [← hqid] at hrid'
    rw [← hps, ← hqs] at hheads
    exact ⟨p, hp, q, hq, hrid, hrid', direction, hheads⟩

end Order

end Realisation

namespace Topology

open Realisation (Hosts Realisable)

variable {a : Architecture} {g : Grid} {t t' : Topology}

/-! ### When there is a network -/

/-- An architecture can be realised on a device exactly if its routers can be on the router tiles of
the device. -/
theorem exists_realise_iff : (∃ t, realise a g = .ok t) ↔
    ∃ tiles, g.tilesNamed a.routerTile = .ok tiles ∧ Realisable tiles a.routers := by
  constructor
  · rintro ⟨t, h⟩
    obtain ⟨tiles, htiles, hne, hlength, hcharted, hhosts, hjoins⟩ := exists_of_realise h
    have hreachable := hcharted.reachable
    refine ⟨tiles, htiles, hne, hlength,
      Realisation.placeable_of_hosts (Grid.areSites htiles) hreachable hhosts, ?_⟩
    intro r hr ends hends
    have hmem : ends ∈ a.routers.flatMap LogicalRouter.ends := List.mem_flatMap.2 ⟨r, hr, hends⟩
    obtain ⟨l, hl, hjoin⟩ := exists_right_of_mem hjoins hmem
    exact (Realisation.canJoin_iff hhosts).1 (hreachable.canJoin hcharted.whole hl hjoin)
  · rintro ⟨tiles, htiles, hne, hlength, hplaceable, hlinkable⟩
    have hsites := Grid.areSites htiles
    have hbare := Reachable.bare a.linkBandwidth a.linkLatency a.routerLatency
    obtain ⟨t₁, ht₁⟩ : ∃ t₁, Realisation.addRouters tiles a.routers []
        (bare a.linkBandwidth a.linkLatency a.routerLatency) = .ok t₁ :=
      Realisation.exists_addRouters hsites hplaceable rfl (by simp [bare]) (by simp [bare])
        (by simp [bare])
    obtain ⟨hreachable, added, rfl, hhosts⟩ := Realisation.exists_of_addRouters hbare ht₁
    -- all routers are at the positions of tiles, so that links can be added and the network finished
    have hwhole : HasWholePositions ⟨a.linkBandwidth, a.linkLatency, a.routerLatency, added, [],
        none⟩ := by
      intro q hq
      obtain ⟨r, -, -, s, hs, hposition⟩ := exists_left_of_mem hhosts hq
      rw [hposition]
      exact hsites.whole s (Realisation.mem_of_choose hs)
    have hids : ∀ r ∈ a.routers, ∃ p ∈ added, p.id.same r.id = true := by
      intro r hr
      obtain ⟨p, hp, hid, -⟩ := exists_right_of_mem hhosts hr
      rw [← hid]
      exact ⟨p, hp, Value.same_self (hreachable.isIdentified.idKey p hp)⟩
    obtain ⟨t₂, ht₂, hrouters, hbuilt⟩ := Realisation.exists_addLinks hreachable hwhole rfl hids
      fun r hr ends hends => (Realisation.canJoin_iff hhosts).2 (hlinkable r hr ends hends)
    have hwhole₂ : t₂.HasWholePositions := by
      intro q hq
      rw [hrouters] at hq
      exact hwhole q hq
    exact ⟨_, realise_eq_ok_iff.2
      ⟨tiles, htiles, hne, hlength, _, ht₁, t₂, ht₂, finish_eq hbuilt hwhole₂⟩⟩

/-! ### Which network it is -/

/-- The router with an identifier. -/
def named (t : Topology) (id : Value) : Option Router :=
  t.routers.find? (·.id.same id)

/-- The position of the router with an identifier. -/
def positionOf (t : Topology) (id : Value) : Option Position :=
  (t.named id).map (·.position)

/-- The identifiers of the routers that a link joins. -/
def endsOf (t : Topology) (l : Link) : Option Value × Option Value :=
  (t.routers[l.source]?.map (·.id), t.routers[l.sink]?.map (·.id))

lemma Reachable.named_eq_some_iff (ht : t.Reachable) {id : Value} {q : Router} :
    t.named id = some q ↔ q ∈ t.routers ∧ q.id.same id = true :=
  find?_eq_some_iff_mem fun _ hp _ hq => ht.eq_of_id_same hp hq

section Agreement

variable {tiles : List TileSite} {rs rs' : List LogicalRouter}

/-- Where a declared router belongs, it has the same identifier and position in any network. -/
lemma exists_agreeing (h : List.Forall₂ (Hosts tiles) rs t.routers)
    (h' : List.Forall₂ (Hosts tiles) rs' t'.routers) (hsub : rs ⊆ rs') {q : Router}
    (hq : q ∈ t.routers) : ∃ q' ∈ t'.routers, q'.id = q.id ∧ q'.position = q.position := by
  obtain ⟨r, hr, hid, s, hs, hposition⟩ := exists_left_of_mem h hq
  obtain ⟨q', hq', hid', s', hs', hposition'⟩ := exists_right_of_mem h' (hsub hr)
  obtain rfl := Except.ok.inj (hs.symm.trans hs')
  exact ⟨q', hq', hid'.trans hid.symm, hposition'.trans hposition.symm⟩

/-- Routers with the same identifier agree in two networks in everything but their number. -/
lemma map_named_eq {β : Type} {f : Router → β} (ht : t.Reachable) (ht' : t'.Reachable)
    (h : List.Forall₂ (Hosts tiles) rs t.routers) (h' : List.Forall₂ (Hosts tiles) rs' t'.routers)
    (hperm : rs.Perm rs')
    (hf : ∀ q q' : Router, q'.id = q.id → q'.position = q.position → f q' = f q) (id : Value) :
    (t.named id).map f = (t'.named id).map f := by
  ext b
  simp only [Option.map_eq_some_iff, ht.named_eq_some_iff, ht'.named_eq_some_iff]
  constructor
  · rintro ⟨q, ⟨hq, hid⟩, rfl⟩
    obtain ⟨q', hq', hid', hposition⟩ := exists_agreeing h h' hperm.subset hq
    exact ⟨q', ⟨hq', hid' ▸ hid⟩, hf q q' hid' hposition⟩
  · rintro ⟨q, ⟨hq, hid⟩, rfl⟩
    obtain ⟨q', hq', hid', hposition⟩ := exists_agreeing h' h hperm.symm.subset hq
    exact ⟨q', ⟨hq', hid' ▸ hid⟩, hf q q' hid' hposition⟩

/-- The ends of a link are the routers that it was declared to join. -/
lemma Reachable.endsOf_eq (ht : t.Reachable) {ends : Value × Value} {l : Link}
    (h : t.Joins ends l) :
    t.endsOf l = ((t.named ends.1).map (·.id), (t.named ends.2).map (·.id)) := by
  obtain ⟨p, q, hp, hpid, hq, hqid⟩ := h
  have hpnamed := ht.named_eq_some_iff.2 ⟨List.mem_of_getElem? hp, hpid⟩
  have hqnamed := ht.named_eq_some_iff.2 ⟨List.mem_of_getElem? hq, hqid⟩
  rw [endsOf, hp, hq, hpnamed, hqnamed]

/-- The ends of the links, as they were declared. -/
lemma Reachable.map_endsOf_eq (ht : t.Reachable)
    (h : List.Forall₂ t.Joins (rs.flatMap LogicalRouter.ends) t.links) :
    t.links.map t.endsOf = (rs.flatMap LogicalRouter.ends).map fun ends =>
      ((t.named ends.1).map (·.id), (t.named ends.2).map (·.id)) := by
  rw [← List.forall₂_eq_eq_eq, List.forall₂_map_left_iff, List.forall₂_map_right_iff]
  exact h.flip.imp fun l ends hjoin => ht.endsOf_eq hjoin

end Agreement

/-- The order in which routers are declared does not matter: if there is a network in one order,
there is one in the other, and both have every router at the same position and as many links between
the same routers. -/
theorem realise_perm {rs : List LogicalRouter} (h : a.routers.Perm rs) :
    ((∃ t, realise a g = .ok t) ↔ ∃ t, realise { a with routers := rs } g = .ok t) ∧
      ∀ t t', realise a g = .ok t → realise { a with routers := rs } g = .ok t' →
        (∀ id, t.positionOf id = t'.positionOf id) ∧
          (t.links.map t.endsOf).Perm (t'.links.map t'.endsOf) := by
  constructor
  · rw [exists_realise_iff, exists_realise_iff]
    refine exists_congr fun tiles => and_congr_right fun _ => ?_
    exact ⟨fun hrs => hrs.perm h, fun hrs => hrs.perm h.symm⟩
  · intro t t' ht ht'
    obtain ⟨tiles, htiles, -, -, hcharted, hhosts, hjoins⟩ := exists_of_realise ht
    obtain ⟨tiles', htiles', -, -, hcharted', hhosts', hjoins'⟩ := exists_of_realise ht'
    obtain rfl := Except.ok.inj (htiles.symm.trans htiles')
    have hreachable := hcharted.reachable
    have hreachable' := hcharted'.reachable
    constructor
    · exact map_named_eq hreachable hreachable' hhosts hhosts' h fun q q' _ hposition => hposition
    · have hids := map_named_eq (f := (·.id)) hreachable hreachable' hhosts hhosts' h
        fun q q' hid _ => hid
      rw [hreachable.map_endsOf_eq hjoins, hreachable'.map_endsOf_eq hjoins']
      simp only [hids]
      exact (h.flatMap_right LogicalRouter.ends).map _

/-- Three routers that are declared in two orders. -/
theorem corner_realise_perm : ∃ t t', realise Corner.architecture Corner.grid = .ok t ∧
    realise { Corner.architecture with routers := Corner.architecture.routers.reverse }
      Corner.grid = .ok t' ∧
    (t.links.map fun l => (l.source, l.sink)) = [(0, 1), (1, 0), (1, 2), (1, 0), (2, 1)] ∧
    (t'.links.map fun l => (l.source, l.sink)) = [(0, 1), (1, 2), (1, 0), (1, 2), (2, 1)] ∧
    (∀ id, t.positionOf id = t'.positionOf id) ∧
    (t.links.map t.endsOf).Perm (t'.links.map t'.endsOf) := by
  have hrun : ((realise Corner.architecture Corner.grid).toOption.map fun t =>
      t.links.map fun l => (l.source, l.sink)) =
      some [(0, 1), (1, 0), (1, 2), (1, 0), (2, 1)] := by
    decide +kernel
  have hrun' : ((realise { Corner.architecture with
      routers := Corner.architecture.routers.reverse } Corner.grid).toOption.map fun t =>
      t.links.map fun l => (l.source, l.sink)) =
      some [(0, 1), (1, 2), (1, 0), (1, 2), (2, 1)] := by
    decide +kernel
  obtain ⟨t, ht, hlinks⟩ := Except.exists_of_toOption_map hrun
  obtain ⟨t', ht', hlinks'⟩ := Except.exists_of_toOption_map hrun'
  have hperm := List.reverse_perm Corner.architecture.routers
  obtain ⟨hpositions, hends⟩ := (realise_perm hperm.symm).2 t t' ht ht'
  exact ⟨t, t', ht, ht', hlinks, hlinks', hpositions, hends⟩

end Topology

end NocRouting
