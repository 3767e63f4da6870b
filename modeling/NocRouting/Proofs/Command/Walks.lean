import NocRouting.Proofs.Command.Endings
import NocRouting.Proofs.Realisation.Exactness

/-!
# What is shown are walks in the declared network

The routers that are shown for a flow are declared in the problem.  The first is on the tile that is
anchored where the source of the flow is placed, the last on the one where its sink is placed, and
every router but the last declares a connection to the next.  Between what is declared and what is
shown, routers go by their numbers: a declared router has the same number as the router of the
network that is on its tile.

* `Description.IsItinerary` says this about declared routers, and nothing about the network.
* `Description.IsSetUp` says what the network has to do with what is declared.
* `Command.run_shows_itineraries` says that all output of a run is made up of itineraries, one for
  every flow.
-/

namespace NocRouting

/-! ### Itineraries in a declared network -/

/-- A declared router has a connection to another one. -/
def LogicalRouter.Connects (r r' : LogicalRouter) : Prop :=
  ∃ id ∈ r.connections, r'.id.same id = true

/-- How a flow is shown: its label, and the routers on its way by their identifiers. -/
def Flow.shown (f : Flow) (visited : List LogicalRouter) : Text :=
  f.label ++ ": " ++ Text.joined " -> " (visited.map (·.id.plain))

namespace Description

variable {d : Description} {m : TurnModel} {c : Context} {tiles : List TileSite}

/-- A block is placed on a declared router: the tile for the router is anchored at the location of
the block. -/
def Seats (d : Description) (block : Value) (r : LogicalRouter) : Prop :=
  r ∈ d.architecture.routers ∧ ∃ tiles s location members,
    d.grid.tilesNamed d.architecture.routerTile = .ok tiles ∧
    Realisation.choose tiles r = .ok s ∧ d.placement.location block = .ok location ∧
    location.asMembers = .ok members ∧ s.position.IsAt members

/-- Declared routers make up the way of a flow. -/
structure IsItinerary (d : Description) (f : Flow) (visited : List LogicalRouter) : Prop where
  declared : visited ⊆ d.architecture.routers
  /-- It begins with the router that the source is placed on. -/
  first : ∀ r, visited.head? = some r ↔ d.Seats f.source r
  /-- It ends with the router that the sink is placed on. -/
  last : ∀ r, visited.getLast? = some r ↔ d.Seats f.sink r
  /-- It comes to no router twice. -/
  apart : visited.Pairwise fun r r' => r.id.same r'.id = false
  connected : visited.IsChain LogicalRouter.Connects
  /-- It does not leave the router that both blocks are placed on. -/
  shared : ∀ r, d.Seats f.source r → d.Seats f.sink r → visited = [r]

/-! ### Networks that are set up -/

/-- A context was set up as described: its routers are on the tiles of the declared ones, and its
links are the declared connections. -/
structure IsSetUp (d : Description) (c : Context) (tiles : List TileSite) : Prop where
  found : d.grid.tilesNamed d.architecture.routerTile = .ok tiles
  charted : c.topology.IsCharted
  hosts : List.Forall₂ (Realisation.Hosts tiles) d.architecture.routers c.topology.routers
  joins : List.Forall₂ c.topology.Joins (d.architecture.routers.flatMap LogicalRouter.ends)
    c.topology.links
  placement : c.placement = d.placement
  flows : c.flows = d.flows

lemma exists_isSetUp (h : d.context m = .ok c) : ∃ tiles, d.IsSetUp c tiles := by
  obtain ⟨t, ht, hpure⟩ := Except.bind_eq_ok.1 h
  obtain rfl := Except.pure_eq_ok.1 hpure
  obtain ⟨tiles, htiles, -, -, hcharted, hhosts, hjoins⟩ := Topology.exists_of_realise ht
  exact ⟨tiles, htiles, hcharted, hhosts, hjoins, rfl, rfl⟩

namespace IsSetUp

variable (h : d.IsSetUp c tiles) {i j : Nat} {r r' : LogicalRouter}
include h

/-- The router of the network with the number of a declared one. -/
lemma exists_router (hr : d.architecture.routers[i]? = some r) :
    ∃ q, c.topology.routers[i]? = some q ∧ Realisation.Hosts tiles r q :=
  exists_getElem?_of_forall₂ h.hosts hr

/-- The declared router with the number of one of the network. -/
lemma exists_declared {q : Router} (hq : c.topology.routers[i]? = some q) :
    ∃ r, d.architecture.routers[i]? = some r ∧ Realisation.Hosts tiles r q :=
  exists_getElem?_of_forall₂ (R := flip (Realisation.Hosts tiles)) h.hosts.flip hq

/-- Declared routers with different numbers have different identifiers. -/
lemma id_same_eq_false (hr : d.architecture.routers[i]? = some r)
    (hr' : d.architecture.routers[j]? = some r') (hij : i ≠ j) : r.id.same r'.id = false := by
  obtain ⟨q, hq, hid, -⟩ := h.exists_router hr
  obtain ⟨q', hq', hid', -⟩ := h.exists_router hr'
  have hreachable := h.charted.reachable
  have hmem := List.mem_of_getElem? hq
  have hmem' := List.mem_of_getElem? hq'
  rw [← hid, ← hid', ← Bool.not_eq_true]
  intro hsame
  have hself := Value.same_self (hreachable.isIdentified.idKey q' hmem')
  obtain rfl : q = q' := hreachable.eq_of_id_same hmem hmem' hsame hself
  exact hij ((hreachable.isSound.index_of_getElem? hq).symm.trans
    (hreachable.isSound.index_of_getElem? hq'))

lemma index_unique (hi : d.architecture.routers[i]? = some r)
    (hj : d.architecture.routers[j]? = some r) : i = j := by
  by_contra hij
  obtain ⟨q, hq, hid, -⟩ := h.exists_router hi
  have hself := Value.same_self
    (h.charted.reachable.isIdentified.idKey q (List.mem_of_getElem? hq))
  rw [hid, h.id_same_eq_false hi hj hij] at hself
  cases hself

/-- A block is placed on the declared router whose number it is placed on in the network. -/
lemma seats_iff {block : Value} (hblock : c.blockRouter block = .ok i) :
    d.Seats block r ↔ d.architecture.routers[i]? = some r := by
  obtain ⟨location, members, hlocation, hmembers, hrouter⟩ := Context.blockRouter_eq_ok.1 hblock
  rw [h.placement] at hlocation
  have hreachable := h.charted.reachable
  constructor
  · rintro ⟨hr, tiles', s, location', members', htiles, hs, hlocation', hmembers', hat⟩
    obtain rfl := Except.ok.inj (h.found.symm.trans htiles)
    obtain rfl := Except.ok.inj (hlocation.symm.trans hlocation')
    obtain rfl := Except.ok.inj (hmembers.symm.trans hmembers')
    obtain ⟨j, hj⟩ := List.mem_iff_getElem?.1 hr
    obtain ⟨q, hq, -, s', hs', hposition⟩ := h.exists_router hj
    obtain rfl := Except.ok.inj (hs.symm.trans hs')
    have hfound : c.topology.routerAt members = .ok j :=
      hreachable.routerAt_eq_ok_iff_isAt.2 ⟨q, hq, hposition ▸ hat⟩
    obtain rfl := Except.ok.inj (hrouter.symm.trans hfound)
    exact hj
  · intro hr
    obtain ⟨q, hq, hat⟩ := hreachable.routerAt_eq_ok_iff_isAt.1 hrouter
    obtain ⟨q', hq', -, s, hs, hposition⟩ := h.exists_router hr
    obtain rfl : q' = q := Option.some.inj (hq'.symm.trans hq)
    exact ⟨List.mem_of_getElem? hr, tiles, s, location, members, h.found, hs, hlocation, hmembers,
      hposition ▸ hat⟩

/-- A link leads from the router that declares a connection to the one it is declared to. -/
lemma connects {l : Link} (hl : l ∈ c.topology.links)
    (hr : d.architecture.routers[l.source]? = some r)
    (hr' : d.architecture.routers[l.sink]? = some r') : r.Connects r' := by
  obtain ⟨ends, hends, p, q, hp, hpid, hq, hqid⟩ := exists_left_of_mem h.joins hl
  obtain ⟨declaring, hdeclaring, hconnection⟩ := List.mem_flatMap.1 hends
  obtain ⟨id, hid, rfl⟩ := List.mem_map.1 hconnection
  obtain ⟨p', hp', hpr, -⟩ := h.exists_router hr
  obtain ⟨q', hq', hqr, -⟩ := h.exists_router hr'
  obtain rfl : p' = p := Option.some.inj (hp'.symm.trans hp)
  obtain rfl : q' = q := Option.some.inj (hq'.symm.trans hq)
  obtain ⟨i, hi⟩ := List.mem_iff_getElem?.1 hdeclaring
  have hsource : l.source = i := by
    by_contra hne
    have hapart := h.id_same_eq_false hr hi hne
    rw [← hpr, hpid] at hapart
    cases hapart
  obtain rfl : r = declaring := Option.some.inj (hr.symm.trans (hsource ▸ hi))
  exact ⟨id, hid, hqr ▸ hqid⟩

/-- Routers on the way are declared under their numbers. -/
lemma exists_visited {is : List Nat} (his : ∀ i ∈ is, i < c.topology.routers.length) :
    ∃ visited ⊆ d.architecture.routers,
      visited.map some = is.map (d.architecture.routers[·]?) := by
  obtain ⟨visited, hvisited⟩ : ∃ visited, List.Forall₂
      (fun i r => d.architecture.routers[i]? = some r) is visited := by
    refine exists_forall₂ fun i hi => ?_
    obtain ⟨r, hr, -⟩ := h.exists_declared (List.getElem?_eq_getElem (his i hi))
    exact ⟨r, hr⟩
  refine ⟨visited, fun r hr => ?_, ?_⟩
  · obtain ⟨i, -, hi⟩ := exists_left_of_mem hvisited hr
    exact List.mem_of_getElem? hi
  · rw [← List.forall₂_eq_eq_eq, List.forall₂_map_left_iff, List.forall₂_map_right_iff]
    exact hvisited.flip.imp fun r i hi => hi.symm

/-- The declared routers on the way of a flow are its itinerary. -/
lemma isItinerary {f : Flow} {a b : Nat} {path : List Link} {visited : List LogicalRouter}
    (hends : c.flowRouters f = .ok (a, b)) (hpath : c.Permits a b path)
    (hdeclared : visited ⊆ d.architecture.routers)
    (hvisited : visited.map some = (visits a path).map (d.architecture.routers[·]?)) :
    d.IsItinerary f visited := by
  obtain ⟨hsource, hsink⟩ := Context.flowRouters_eq_ok.1 hends
  have hwalk := hpath.simple.walk
  have hfirst : visited.head? = d.architecture.routers[a]? := by
    obtain ⟨r, hr, ha⟩ : ∃ r, visited.head? = some r ∧ some r = d.architecture.routers[a]? := by
      simpa [visits] using congrArg List.head? hvisited
    exact hr.trans ha
  have hlast : visited.getLast? = d.architecture.routers[b]? := by
    obtain ⟨r, hr, hb⟩ : ∃ r, visited.getLast? = some r ∧ some r = d.architecture.routers[b]? := by
      simpa [hwalk.getLast?_visits] using congrArg List.getLast? hvisited
    exact hr.trans hb
  constructor
  case declared => exact hdeclared
  case first =>
    intro r
    rw [h.seats_iff hsource, hfirst]
  case last =>
    intro r
    rw [h.seats_iff hsink, hlast]
  case apart =>
    have hpairs : ((visits a path).map (d.architecture.routers[·]?)).Pairwise
        fun o o' => ∀ r ∈ o, ∀ r' ∈ o', r.id.same r'.id = false :=
      List.pairwise_map.2 <| hpath.simple.simple.imp fun hij _ hr _ hr' =>
        h.id_same_eq_false hr hr' hij
    rw [← hvisited, List.pairwise_map] at hpairs
    exact hpairs.imp fun hrr' => hrr' _ rfl _ rfl
  case connected =>
    have hchain : ((visits a path).map (d.architecture.routers[·]?)).IsChain
        fun o o' => ∀ r ∈ o, ∀ r' ∈ o', r.Connects r' :=
      List.isChain_map _ |>.2 <| hwalk.isChain_visits fun l hl _ hr _ hr' =>
        h.connects (hpath.subset hl) hr hr'
    rw [← hvisited, List.isChain_map] at hchain
    exact hchain.imp fun _ _ hrr' => hrr' _ rfl _ rfl
  case shared =>
    intro r hr hr'
    rw [h.seats_iff hsource] at hr
    rw [h.seats_iff hsink] at hr'
    obtain rfl := hpath.simple.eq_nil_iff.2 (h.index_unique hr hr')
    cases visited with
    | nil => cases hvisited
    | cons r' rest =>
      simpa [visits, hr] using hvisited

/-- Declared routers have the identifiers of the routers of the network. -/
lemma map_id_eq {qs : List Router} {visited : List LogicalRouter} (hqs : qs ⊆ c.topology.routers)
    (hvisited : visited.map some = (qs.map (·.index)).map (d.architecture.routers[·]?)) :
    visited.map (·.id) = qs.map (·.id) := by
  have hid : ∀ q ∈ qs, (d.architecture.routers[q.index]?).map (·.id) = some q.id := by
    intro q hq
    obtain ⟨r, hr, hid, -⟩ := h.exists_declared (h.charted.reachable.getElem?_index (hqs hq))
    rw [hr, Option.map_some, hid]
  refine List.map_injective_iff.2 (Option.some_injective Value) ?_
  calc (visited.map (·.id)).map some
      = (visited.map some).map (Option.map (·.id)) := by simp
    _ = qs.map fun q => (d.architecture.routers[q.index]?).map (·.id) := by
        rw [hvisited]
        simp
    _ = (qs.map (·.id)).map some := by
        rw [List.map_map]
        exact List.map_congr_left hid

/-- The path of a flow is shown as its itinerary. -/
lemma exists_itinerary {f : Flow} {a b : Nat} {path : List Link}
    (hends : c.flowRouters f = .ok (a, b)) (hpath : c.Permits a b path) :
    ∃ visited, itineraryLine c.topology c.placement f (.list ((numbers path).map .int)) =
        .ok (f.shown visited) ∧
      d.IsItinerary f visited ∧ visited.length = (numbers path).length + 1 := by
  have hsound := h.charted.reachable.isSound
  obtain ⟨ha, -⟩ := Context.flowRouters_lt hsound hends
  obtain ⟨visited, hdeclared, hvisited⟩ := h.exists_visited (hsound.visits_lt ha hpath.subset)
  obtain ⟨line, hline, qs, hqs, hindices, rfl⟩ :=
    itineraryLine_eq hsound hends hpath.subset hpath.simple.walk
  refine ⟨visited, ?_, h.isItinerary hends hpath hdeclared hvisited, ?_⟩
  · have hids := h.map_id_eq hqs (hindices ▸ hvisited)
    have hplain : qs.map (·.id.plain) = visited.map (·.id.plain) := by
      have hmapped := congrArg (List.map Value.plain) hids.symm
      rwa [List.map_map, List.map_map] at hmapped
    rw [hline, Flow.shown, hplain]
  · have hlength := congrArg List.length hvisited
    simpa [visits, numbers] using hlength

end IsSetUp

end Description

/-! ### Runs that end well -/

namespace Command

variable {charset : Charset} {files : Text → FileContent}
  {engines : Context → Value → Engine RoutingVar} {line : CommandLine} {d : Description}
  {c : Context} {tiles : List TileSite}

lemma endingOf_code_ne_zero {fault : Fault} : (endingOf fault).code ≠ 0 := by
  unfold endingOf
  split
  · exact Nat.succ_ne_zero 1
  · exact Nat.succ_ne_zero 0

lemma endingOfFile_code_ne_zero {cause : FileFault} : (endingOfFile cause).code ≠ 0 := by
  unfold endingOfFile
  split
  · exact Nat.succ_ne_zero 0
  · exact Nat.succ_ne_zero 1

/-- Code 0 means that routes were found and are shown. -/
lemma exists_of_route_code {j : Job} (hcode : (route charset engines j).2.code = 0) :
    ∃ c result lines, j.description.context j.turnModel = .ok c ∧
      (NocRouting.route (engines c j.options.resolution) c j.options).outcome = .ok result ∧
      result.status.isFeasible = true ∧ showRoutes charset c result [] = .ok () lines ∧
      (route charset engines j).2 = .routed lines := by
  unfold route at hcode ⊢
  cases hc : j.description.context j.turnModel with
  | error fault =>
    rw [hc] at hcode
    exact absurd hcode endingOf_code_ne_zero
  | ok c =>
    rw [hc] at hcode
    dsimp only at hcode ⊢
    cases houtcome : (NocRouting.route (engines c j.options.resolution) c j.options).outcome with
    | error fault =>
      rw [houtcome] at hcode
      exact absurd hcode endingOf_code_ne_zero
    | ok result =>
      rw [houtcome] at hcode
      dsimp only at hcode ⊢
      split at hcode
      · next hfeasible =>
        cases hlines : showRoutes charset c result [] with
        | error fault lines =>
          rw [hlines] at hcode
          cases hcode
        | ok done lines =>
          refine ⟨c, result, lines, rfl, houtcome, hfeasible, hlines, ?_⟩
          rw [if_pos hfeasible]
      · cases hcode

/-- Code 0 means that the file describes a problem, and that its flows are routed. -/
lemma exists_of_runLine_code (hcode : (runLine charset files engines line).ending.code = 0) :
    ∃ v d m, valueOf files line = .ok v ∧ Description.ofValue v = .ok d ∧
      line.turnModel = some m ∧
      (runLine charset files engines line).ending =
        (route charset engines ⟨d, m, optionsOf line⟩).2 := by
  unfold runLine at hcode ⊢
  cases hv : (files line.problem).value line.problem with
  | error cause =>
    rw [hv] at hcode
    exact absurd hcode endingOfFile_code_ne_zero
  | ok v =>
    rw [hv] at hcode
    dsimp only at hcode ⊢
    cases hd : Description.ofValue v with
    | error fault =>
      rw [hd] at hcode
      exact absurd hcode endingOf_code_ne_zero
    | ok d =>
      rw [hd] at hcode
      dsimp only at hcode ⊢
      cases hm : line.turnModel with
      | none =>
        rw [hm] at hcode
        dsimp only at hcode
        exact absurd hcode endingOf_code_ne_zero
      | some m => exact ⟨v, d, m, hv, hd, rfl, rfl⟩

/-- The lines that show a legal routing are those of its itineraries. -/
lemma itineraries_eq (hsetup : d.IsSetUp c tiles) {result : RoutingResult}
    {paths : List (List Link)} (hr : c.IsRouting paths)
    (hroutes : result.routes = paths.map numbers) :
    ∃ walks, itineraries c result = .ok (List.zipWith Flow.shown d.flows walks) ∧
      List.Forall₂ d.IsItinerary d.flows walks ∧
      List.Forall₂ (fun links visited => visited.length = links.length + 1)
        result.routes walks := by
  rw [← hsetup.flows, itineraries, hroutes]
  refine Except.exists_mapM_zipWith (List.forall₂_map_right_iff.2 (hr.imp ?_))
  rintro f path ⟨a, b, hends, hpath⟩
  exact hsetup.exists_itinerary hends hpath

/-- All that the command shows of flows are their itineraries: with code 0, and an engine that is
honest, it shows one for every flow, in order, with one router more than its route has links. -/
theorem run_shows_itineraries (charset : Charset) (files : Text → FileContent)
    (engines : Context → Value → Engine RoutingVar) {arguments : List Text}
    (hparse : CommandLine.parse arguments = .ok (.run line))
    (hengines : ∀ c, (engines c line.resolution).IsHonest)
    (hcode : (run charset files engines arguments).ending.code = 0) :
    ∃ v d m c result walks, valueOf files line = .ok v ∧ Description.ofValue v = .ok d ∧
      v.Describes d ∧ line.turnModel = some m ∧ d.context m = .ok c ∧
      (NocRouting.route (engines c line.resolution) c (optionsOf line)).outcome = .ok result ∧
      (run charset files engines arguments).ending.output =
        (List.zipWith Flow.shown d.flows walks).flatMap (· ++ ("\n" : Text)) ∧
      List.Forall₂ d.IsItinerary d.flows walks ∧
      List.Forall₂ (fun links visited => visited.length = links.length + 1)
        result.routes walks := by
  have hrun : run charset files engines arguments = runLine charset files engines line := by
    rw [run, hparse]
  rw [hrun] at hcode ⊢
  obtain ⟨v, d, m, hv, hd, hm, hending⟩ := exists_of_runLine_code hcode
  rw [hending] at hcode ⊢
  obtain ⟨c, result, lines, hc, houtcome, hfeasible, hlines, hrouted⟩ :=
    exists_of_route_code hcode
  have hproper : c.IsProper := (isDescribed_of_poses ⟨v, d, m, hv, hd, hm, hc⟩).isProper
  obtain ⟨tiles, hsetup⟩ := Description.exists_isSetUp hc
  obtain ⟨paths, hr, hroutes⟩ := Route.exists_paths hproper (hengines c) houtcome hfeasible
  obtain ⟨walks, hwalks, hitineraries, hlengths⟩ := itineraries_eq hsetup hr hroutes
  have hwrites := writes_showRoutes charset hwalks
  rw [hlines] at hwrites
  obtain ⟨rfl, -⟩ := hwrites
  refine ⟨v, d, m, c, result, walks, hv, hd, (Description.isRead_of_ofValue hd).2, hm, hc, houtcome,
    ?_, hitineraries, hlengths⟩
  rw [hrouted]
  rfl

/-- The flow is shown with the two routers that it leads from and to. -/
theorem pair_shows_itineraries : CommandLine.parse ["pair.json"] = .ok (.run Pair.line) ∧
    Pair.engine.IsHonest ∧
    let ending := (run .characters Pair.placed (fun _ _ => Pair.engine) ["pair.json"]).ending
    ending.code = 0 ∧ ending.output = "flow 0: a -> b\n" ∧
      ∃ v d m c result walks, valueOf Pair.placed Pair.line = .ok v ∧
        Description.ofValue v = .ok d ∧ v.Describes d ∧ Pair.line.turnModel = some m ∧
        d.context m = .ok c ∧
        (NocRouting.route Pair.engine c (optionsOf Pair.line)).outcome = .ok result ∧
        ending.output = (List.zipWith Flow.shown d.flows walks).flatMap (· ++ ("\n" : Text)) ∧
        List.Forall₂ d.IsItinerary d.flows walks ∧
        List.Forall₂ (fun links visited => visited.length = links.length + 1)
          result.routes walks := by
  have hends : (run .characters Pair.placed (fun _ _ => Pair.engine) ["pair.json"]).ending.code = 0 ∧
      (run .characters Pair.placed (fun _ _ => Pair.engine) ["pair.json"]).ending.output =
        "flow 0: a -> b\n" := by
    decide +kernel
  exact ⟨Pair.parse_eq, Pair.engine_isHonest, hends.1, hends.2,
    run_shows_itineraries .characters Pair.placed (fun _ _ => Pair.engine) Pair.parse_eq
      (fun _ => Pair.engine_isHonest) hends.1⟩

end Command

end NocRouting
