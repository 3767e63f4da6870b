import NocRouting.Proofs.Faults
import NocRouting.Proofs.Network.Growth

/-!
# Reading descriptions

A description is read field by field.  Reading it fails with an ordinary fault, unless the placement
is no object: its fields are asked for before anybody has looked at its sort.

* `Description.ofValue_eq_error` says with what faults reading a description fails.
* `Value.Describes` says in which fields of an object the parts of a description stand, and
  `Description.IsRead` what else holds of a description that has been read.
-/

namespace NocRouting

open Fault (IsOrdinary)

variable {v w : Value}

lemma failsOnly_entry {name : String} : FailsOnly IsOrdinary (v.entry name) := by
  unfold Value.entry
  split
  · split
    · exact .ok _
    · exact .error isOrdinary_configuration
  · exact .error isOrdinary_mismatch

/-! ### Tiles -/

lemma failsOnly_tileTypeMake {name width height : Value} :
    FailsOnly IsOrdinary (TileType.make name width height) := by
  refine .bind failsOnly_asNumber fun w _ => ?_
  refine .ite (fun _ => .throw_bind isOrdinary_refused) fun _ => ?_
  refine .bind failsOnly_asNumber fun h _ => ?_
  exact .ite (fun _ => .throw_bind isOrdinary_refused) fun _ => .pure _

namespace Grid

lemma failsOnly_isInside : FailsOnly IsOrdinary (isInside v w) := by
  refine .bind failsOnly_asNumber fun n _ => ?_
  refine .ite (fun _ => ?_) fun _ => .pure _
  exact .bind failsOnly_asNumber fun bound _ => .pure _

lemma failsOnly_isSpanInside {size : Number} : FailsOnly IsOrdinary (isSpanInside v size w) := by
  refine .bind failsOnly_asNumber fun n _ => ?_
  refine .ite (fun _ => ?_) fun _ => .pure _
  refine .bind failsOnly_meeting fun last _ => ?_
  exact .bind failsOnly_asNumber fun bound _ => .pure _

variable {g : Grid} {t : TileType} {x y layer : Value}

lemma failsOnly_fits : FailsOnly IsOrdinary (g.fits t x y layer) := by
  refine .bind failsOnly_isSpanInside fun columns _ => ?_
  refine .ite (fun _ => .pure _) fun _ => ?_
  refine .bind failsOnly_isSpanInside fun rows _ => ?_
  exact .ite (fun _ => .pure _) fun _ => failsOnly_isInside

lemma failsOnly_place : FailsOnly IsOrdinary (g.place t x y layer) := by
  refine .bind failsOnly_fits fun inside _ => ?_
  refine .ite (fun _ => ?_) fun _ => .throw_bind isOrdinary_refused
  refine .bind failsOnly_asNumber fun a _ => ?_
  refine .bind failsOnly_asNumber fun b _ => ?_
  dsimp only
  split
  · exact .throw isOrdinary_mismatch
  · split
    · exact .throw isOrdinary_refused
    · exact .pure _

end Grid

namespace Description

lemma failsOnly_tileType {known : List KnownType} {name width height : Value} :
    FailsOnly IsOrdinary (tileType known name width height) := by
  refine .bind (.mapM fun _ _ => failsOnly_asKey) fun key _ => ?_
  split
  · exact .pure _
  · exact .bind failsOnly_tileTypeMake fun t _ => .pure _

lemma failsOnly_placeTiles {tiles : List Value} {known : List KnownType} {g : Grid} :
    FailsOnly IsOrdinary (placeTiles tiles known g) := by
  induction tiles generalizing known g with
  | nil => exact .pure g
  | cons tile tiles ih =>
    refine .bind failsOnly_entry fun name _ => ?_
    refine .bind failsOnly_tileType fun known' _ => ?_
    refine .bind failsOnly_entry fun x _ => ?_
    refine .bind failsOnly_entry fun y _ => ?_
    exact .bind Grid.failsOnly_place fun g' _ => ih

lemma failsOnly_gridOf : FailsOnly IsOrdinary (gridOf v) := by
  refine .bind failsOnly_entry fun width _ => ?_
  refine .bind failsOnly_entry fun height _ => ?_
  exact .bind failsOnly_asMembers fun tiles _ => failsOnly_placeTiles

/-! ### Declared networks -/

lemma failsOnly_routerOf : FailsOnly IsOrdinary (routerOf v) := by
  refine .bind failsOnly_entry fun id _ => ?_
  refine .bind failsOnly_entry fun x _ => ?_
  refine .bind failsOnly_entry fun y _ => ?_
  exact .bind failsOnly_asMembers fun connections _ => .pure _

lemma failsOnly_architectureMake {tile bandwidth linkLatency routerLatency : Value}
    {routers : List LogicalRouter} : FailsOnly IsOrdinary
      (Architecture.make tile bandwidth linkLatency routerLatency routers) := by
  refine .bind failsOnly_asNumber fun b _ => ?_
  refine .ite (fun _ => .throw_bind isOrdinary_refused) fun _ => ?_
  refine .bind failsOnly_asNumber fun l _ => ?_
  refine .ite (fun _ => .throw_bind isOrdinary_refused) fun _ => ?_
  refine .bind failsOnly_asNumber fun r _ => ?_
  exact .ite (fun _ => .throw_bind isOrdinary_refused) fun _ => .pure _

lemma failsOnly_architectureOf : FailsOnly IsOrdinary (architectureOf v) := by
  refine .bind failsOnly_entry fun tile _ => ?_
  refine .bind failsOnly_entry fun bandwidth _ => ?_
  refine .bind failsOnly_entry fun linkLatency _ => ?_
  refine .bind failsOnly_entry fun routerLatency _ => ?_
  refine .bind failsOnly_entry fun routers _ => ?_
  refine .bind failsOnly_asMembers fun members _ => ?_
  exact .bind (.mapM fun _ _ => failsOnly_routerOf) fun rs _ => failsOnly_architectureMake

/-! ### Placements and traffic -/

/-- A placement that is an object is read or refused. -/
lemma failsOnly_placementOf_object {fields : List (Text × Value)} :
    FailsOnly IsOrdinary (placementOf (.object fields)) := by
  refine .bind (.mapM fun field _ => ?_) fun entries _ => .pure _
  exact .bind failsOnly_asMembers fun members _ => .pure _

lemma failsOnly_placementOf : FailsOnly (fun fault => IsOrdinary fault ∨
    fault = .unsupported ∧ ∀ fields, v ≠ .object fields) (placementOf v) := by
  cases v with
  | object fields => exact failsOnly_placementOf_object.mono fun _ => .inl
  | _ =>
    refine .throw (.inr ⟨rfl, ?_⟩)
    rintro fields ⟨⟩

lemma failsOnly_flowOf : FailsOnly IsOrdinary (flowOf v) := by
  refine .bind failsOnly_entry fun source _ => ?_
  refine .bind failsOnly_entry fun sink _ => ?_
  exact .bind failsOnly_entry fun bandwidth _ => .pure _

lemma failsOnly_add {t : Traffic} {r : FlowRequest} : FailsOnly IsOrdinary (t.add r) := by
  refine .bind failsOnly_asNumber fun n _ => ?_
  refine .ite (fun _ => .throw_bind isOrdinary_refused) fun _ => ?_
  exact .bind failsOnly_asMembers fun route _ => .pure _

lemma failsOnly_flowsOf : FailsOnly IsOrdinary (flowsOf v) := by
  refine .bind failsOnly_asMembers fun members _ => ?_
  refine .foldlM (I := fun _ => True) trivial fun f _ t _ => ⟨?_, fun _ _ => trivial⟩
  refine .bind failsOnly_flowOf fun r _ => ?_
  exact .bind failsOnly_add fun added _ => .pure _

/-! ### Descriptions -/

/-- The placement of a problem is given, but is no object. -/
def MisplacesBlocks (v : Value) : Prop :=
  ∃ w, v.entry "placement" = .ok w ∧ ∀ fields, w ≠ .object fields

/-- Reading a description fails with an ordinary fault, unless its placement is no object. -/
theorem ofValue_eq_error {fault : Fault} (h : ofValue v = .error fault) :
    IsOrdinary fault ∨ fault = .unsupported ∧ MisplacesBlocks v := by
  revert fault
  show FailsOnly (fun fault => IsOrdinary fault ∨ fault = .unsupported ∧ MisplacesBlocks v)
    (ofValue v)
  refine .bind (failsOnly_entry.mono fun _ => .inl) fun grid _ => ?_
  refine .bind (failsOnly_gridOf.mono fun _ => .inl) fun g _ => ?_
  refine .bind (failsOnly_entry.mono fun _ => .inl) fun architecture _ => ?_
  refine .bind (failsOnly_architectureOf.mono fun _ => .inl) fun a _ => ?_
  refine .bind (failsOnly_entry.mono fun _ => .inl) fun placement hplacement => ?_
  refine .bind (failsOnly_placementOf.mono ?_) fun p _ => ?_
  · rintro fault (hordinary | ⟨hunsupported, hobject⟩)
    · exact .inl hordinary
    · exact .inr ⟨hunsupported, placement, hplacement, hobject⟩
  refine .bind (failsOnly_entry.mono fun _ => .inl) fun flows _ => ?_
  exact .bind (failsOnly_flowsOf.mono fun _ => .inl) fun t _ => .pure _

end Description

/-! ### What is described -/

namespace Value

/-- An object declares a router. -/
structure DeclaresRouter (w : Value) (r : LogicalRouter) : Prop where
  id : w.entry "id" = .ok r.id
  x : w.entry "x" = .ok r.x
  y : w.entry "y" = .ok r.y
  layer : w.entryOr "layer" (.int 0) = r.layer
  connections : (w.entryOr "connections" (.list [])).asMembers = .ok r.connections

/-- An object declares a network, with its routers in order. -/
structure DeclaresNetwork (w : Value) (a : Architecture) : Prop where
  routerTile : w.entry "router_tile" = .ok a.routerTile
  linkBandwidth : w.entry "link_bandwidth" = .ok a.linkBandwidth
  linkLatency : w.entry "link_latency" = .ok a.linkLatency
  routerLatency : w.entry "router_latency" = .ok a.routerLatency
  routers : ∃ listed items, w.entry "routers" = .ok listed ∧ listed.asMembers = .ok items ∧
    List.Forall₂ DeclaresRouter items a.routers

/-- A field places a block. -/
structure PlacesBlock (field : Text × Value) (entry : Value × Value) : Prop where
  block : entry.1 = .text field.1
  location : ∃ members, field.2.asMembers = .ok members ∧ entry.2 = .list members

/-- An object demands a flow. -/
structure DemandsFlow (w : Value) (f : Flow) : Prop where
  source : w.entry "source" = .ok f.source
  sink : w.entry "sink" = .ok f.sink
  bandwidth : w.entry "bandwidth" = .ok f.bandwidth
  maxLatency : w.entryOr "max_latency" .null = f.maxLatency
  name : w.entryOr "name" .null = f.name
  route : (w.entryOr "route" (.list [])).asMembers = .ok f.route

/-- An object describes a problem: its declared network, its placement and its flows, in the order
in which they are listed. -/
structure Describes (v : Value) (d : Description) : Prop where
  grid : ∃ w, v.entry "grid" = .ok w ∧ Description.gridOf w = .ok d.grid
  architecture : ∃ w, v.entry "architecture" = .ok w ∧ w.DeclaresNetwork d.architecture
  placement : ∃ fields, v.entry "placement" = .ok (.object fields) ∧
    List.Forall₂ PlacesBlock fields d.placement.entries
  flows : ∃ listed items, v.entry "flows" = .ok listed ∧ listed.asMembers = .ok items ∧
    List.Forall₂ DemandsFlow items d.flows

end Value

namespace Description

lemma declaresRouter_of_routerOf {r : LogicalRouter} (h : routerOf w = .ok r) :
    w.DeclaresRouter r := by
  simp only [routerOf, LogicalRouter.make, Except.bind_eq_ok, Except.pure_eq_ok] at h
  obtain ⟨id, hid, x, hx, y, hy, connections, hconnections, rfl⟩ := h
  exact ⟨hid, hx, hy, rfl, hconnections⟩

lemma eq_of_architectureMake {tile bandwidth linkLatency routerLatency : Value}
    {routers : List LogicalRouter} {a : Architecture}
    (h : Architecture.make tile bandwidth linkLatency routerLatency routers = .ok a) :
    (∃ n, bandwidth.number? = some n) ∧
      a = ⟨tile, bandwidth, linkLatency, routerLatency, routers⟩ := by
  obtain ⟨n, hn, h⟩ := Except.bind_eq_ok.1 h
  split at h
  · exact absurd h Except.throw_bind_ne_ok
  obtain ⟨_, -, h⟩ := Except.bind_eq_ok.1 h
  split at h
  · exact absurd h Except.throw_bind_ne_ok
  obtain ⟨_, -, h⟩ := Except.bind_eq_ok.1 h
  split at h
  · exact absurd h Except.throw_bind_ne_ok
  refine ⟨?_, (Except.pure_eq_ok.1 h).symm⟩
  unfold Value.asNumber at hn
  split at hn
  · next n hnumber => exact ⟨n, hnumber⟩
  · cases hn

/-- A declared network is the one that is described, and the bandwidth of its links is a number. -/
lemma declaresNetwork_of_architectureOf {a : Architecture} (h : architectureOf v = .ok a) :
    (∃ n, a.linkBandwidth.number? = some n) ∧ v.DeclaresNetwork a := by
  simp only [architectureOf, Except.bind_eq_ok] at h
  obtain ⟨tile, htile, bandwidth, hbandwidth, linkLatency, hlink, routerLatency, hrouter, listed,
    hlisted, items, hitems, routers, hrouters, hmake⟩ := h
  obtain ⟨hnumber, rfl⟩ := eq_of_architectureMake hmake
  exact ⟨hnumber, htile, hbandwidth, hlink, hrouter, listed, items, hlisted, hitems,
    (Except.mapM_eq_ok.1 hrouters).imp fun _ _ => declaresRouter_of_routerOf⟩

lemma exists_of_placementOf {p : Placement} (h : placementOf v = .ok p) :
    ∃ fields, v = .object fields ∧ List.Forall₂ Value.PlacesBlock fields p.entries := by
  unfold placementOf at h
  split at h
  · next fields =>
    obtain ⟨entries, hentries, hpure⟩ := Except.bind_eq_ok.1 h
    obtain rfl := Except.pure_eq_ok.1 hpure
    refine ⟨fields, rfl, (Except.mapM_eq_ok.1 hentries).imp fun field entry hentry => ?_⟩
    obtain ⟨members, hmembers, hpure⟩ := Except.bind_eq_ok.1 hentry
    obtain rfl := Except.pure_eq_ok.1 hpure
    exact ⟨rfl, members, hmembers, rfl⟩
  · exact absurd h Except.throw_ne_ok

/-- The flows can arise, and are those that are described. -/
lemma exists_of_flowsOf {t : Traffic} (h : flowsOf v = .ok t) : t.Reachable ∧
    ∃ items, v.asMembers = .ok items ∧ List.Forall₂ Value.DemandsFlow items t := by
  obtain ⟨items, hitems, hfold⟩ := Except.bind_eq_ok.1 h
  have hall : t.Reachable ∧ List.Forall₂ Value.DemandsFlow items t := by
    refine Except.foldlM_induction (P := fun done (t : Traffic) =>
      t.Reachable ∧ List.Forall₂ Value.DemandsFlow done t) hfold ⟨.empty, .nil⟩ ?_
    rintro done w s s' ⟨hreachable, hdemands⟩ hstep
    obtain ⟨r, hr, hrest⟩ := Except.bind_eq_ok.1 hstep
    obtain ⟨⟨s'', f⟩, hadd, hpure⟩ := Except.bind_eq_ok.1 hrest
    obtain rfl := Except.pure_eq_ok.1 hpure
    refine ⟨.add r hreachable hadd, ?_⟩
    simp only [flowOf, Except.bind_eq_ok, Except.pure_eq_ok] at hr
    obtain ⟨source, hsource, sink, hsink, bandwidth, hbandwidth, rfl⟩ := hr
    obtain ⟨route, hroute, rfl, rfl⟩ := Traffic.add_eq_ok hadd
    exact List.rel_append hdemands
      (.cons ⟨hsource, hsink, hbandwidth, rfl, rfl, hroute⟩ .nil)
  exact ⟨hall.1, items, hitems, hall.2⟩

/-- What holds of a description that has been read. -/
structure IsRead (d : Description) : Prop where
  linkBandwidth : ∃ n, d.architecture.linkBandwidth.number? = some n
  flows : d.flows.Reachable

/-- What is read is what is described. -/
theorem isRead_of_ofValue {d : Description} (h : ofValue v = .ok d) : d.IsRead ∧ v.Describes d := by
  simp only [ofValue, Except.bind_eq_ok, Except.pure_eq_ok] at h
  obtain ⟨grid, hgrid, g, hg, architecture, harchitecture, a, ha, placement, hplacement, p, hp,
    listed, hlisted, t, ht, rfl⟩ := h
  obtain ⟨hbandwidth, hdeclares⟩ := declaresNetwork_of_architectureOf ha
  obtain ⟨fields, rfl, hplaces⟩ := exists_of_placementOf hp
  obtain ⟨hreachable, items, hitems, hdemands⟩ := exists_of_flowsOf ht
  exact ⟨⟨hbandwidth, hreachable⟩, ⟨grid, hgrid, hg⟩, ⟨architecture, harchitecture, hdeclares⟩,
    ⟨fields, hplacement, hplaces⟩, listed, items, hlisted, hitems, hdemands⟩

end Description

end NocRouting
