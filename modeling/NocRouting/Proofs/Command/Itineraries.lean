import NocRouting.Command
import NocRouting.Proofs.Network.Travel
import NocRouting.Proofs.Outcome
import NocRouting.Proofs.Route.Reading

/-!
# Showing routes

The route of every flow in a legal routing can be shown: its links are looked up, and so are the
routers that they lead to.  The lines that show them are written one after the other, as long as the
output has a form for what they say.

* `Topology.Shows` says which line shows a path, and `Context.AreShownBy` which lines show a legal
  routing.
* `itineraryLine_eq` says that the path of a flow is shown by such a line.
* `exists_itineraries` says that every legal routing is shown, with one line for each flow.
* `Command.writes_showRoutes` says which of the lines are written.
-/

namespace NocRouting

/-- The line names a flow and the routers on its way along some links, by their identifiers. -/
def Topology.Shows (t : Topology) (f : Flow) (a : Nat) (path : List Link) (line : Text) : Prop :=
  ∃ visited ⊆ t.routers, visited.map (·.index) = visits a path ∧
    line = f.label ++ ": " ++ Text.joined " -> " (visited.map (·.id.plain))

/-- The lines show a legal routing, flow by flow. -/
def Context.AreShownBy (c : Context) (lines : List Text) : Prop :=
  List.Forall₂ (fun f line => ∃ a b path, c.flowRouters f = .ok (a, b) ∧ c.Permits a b path ∧
    c.topology.Shows f a path line) c.flows lines

/-- The output has a form for everything in a line. -/
def Charset.Covers (charset : Charset) (line : Text) : Prop :=
  ∀ p ∈ line, charset p = true

/-! ### Looking routers up -/

namespace Topology.IsSound

variable {t : Topology} (ht : t.IsSound)
include ht

lemma exists_router {i : Nat} (hi : i < t.routers.length) :
    ∃ r ∈ t.routers, t.router i = .ok r ∧ r.index = i := by
  have hget : t.routers[i]? = some t.routers[i] := List.getElem?_eq_getElem hi
  refine ⟨t.routers[i], List.getElem_mem hi, ?_, ?_⟩
  · rw [Topology.router, hget]
  · have hindex : (t.routers.map (·.index))[i]? = some t.routers[i].index := by
      rw [List.getElem?_map, hget]
      rfl
    rw [ht.router_index, List.getElem?_range hi] at hindex
    exact (Option.some.inj hindex).symm

lemma exists_routers {is : List Nat} (h : ∀ i ∈ is, i < t.routers.length) :
    ∃ visited ⊆ t.routers, is.mapM t.router = .ok visited ∧ visited.map (·.index) = is := by
  induction is with
  | nil => exact ⟨[], List.nil_subset _, rfl, rfl⟩
  | cons i is ih =>
    obtain ⟨r, hmem, hr, hindex⟩ := ht.exists_router (h i List.mem_cons_self)
    obtain ⟨visited, hsub, hvisited, hindices⟩ := ih fun j hj => h j (List.mem_cons_of_mem i hj)
    refine ⟨r :: visited, List.cons_subset.2 ⟨hmem, hsub⟩, ?_, ?_⟩
    · rw [List.mapM_cons, hr, Except.ok_bind, hvisited]
      rfl
    · rw [List.map_cons, hindex, hindices]

/-- All routers on the way are routers of the network. -/
lemma visits_lt {a : Nat} {path : List Link} (ha : a < t.routers.length)
    (hsub : path ⊆ t.links) : ∀ i ∈ visits a path, i < t.routers.length := by
  intro i hi
  rcases List.mem_cons.1 hi with rfl | hi
  · exact ha
  · obtain ⟨l, hl, rfl⟩ := List.mem_map.1 hi
    exact ht.sink_lt l (hsub hl)

lemma mapM_sink_eq {path : List Link} (hsub : path ⊆ t.links) :
    ((numbers path).map Value.int).mapM
      (fun i => do return (← t.link (← i.asIndex)).sink) = .ok (path.map (·.sink)) := by
  induction path with
  | nil => rfl
  | cons l path ih =>
    obtain ⟨hl, hrest⟩ := List.cons_subset.1 hsub
    have hlink : t.link l.index = .ok l := ht.link_eq hl
    rw [numbers, List.map_cons, List.map_cons, List.mapM_cons, Value.asIndex_int, Except.ok_bind,
      hlink, Except.ok_bind]
    exact Except.bind_eq_ok.2 ⟨_, rfl, Except.bind_eq_ok.2 ⟨_, ih hrest, rfl⟩⟩

end Topology.IsSound

/-! ### The itinerary of a flow -/

section Itinerary

variable {c : Context} {f : Flow} {a b : Nat} {path : List Link}

lemma routeLinks_list (items : List Value) : routeLinks (.list items) = .ok items := by
  cases items with
  | nil => rfl
  | cons item items => rfl

/-- The path of a flow is shown by the routers on its way. -/
theorem itineraryLine_eq (ht : c.topology.IsSound) (hends : c.flowRouters f = .ok (a, b))
    (hsub : path ⊆ c.topology.links) (hwalk : IsWalk a path b) :
    ∃ line, itineraryLine c.topology c.placement f (.list ((numbers path).map .int)) = .ok line ∧
      c.topology.Shows f a path line := by
  obtain ⟨ha, -⟩ := Context.flowRouters_lt ht hends
  obtain ⟨visited, hmem, hvisited, hindices⟩ := ht.exists_routers (ht.visits_lt ha hsub)
  have hitinerary : itinerary c.topology c.placement f ((numbers path).map .int) =
      .ok visited := by
    cases path with
    | nil =>
      obtain ⟨location, members, hlocation, hmembers, hrouter⟩ :=
        Context.blockRouter_eq_ok.1 (Context.flowRouters_eq_ok.1 hends).1
      rw [numbers, List.map_nil, List.map_nil, itinerary, hlocation, Except.ok_bind, hmembers,
        Except.ok_bind, hrouter]
      exact hvisited
    | cons l path =>
      obtain ⟨rfl, -⟩ : l.source = a ∧ IsWalk l.sink path b := hwalk
      have hlink := ht.link_eq (hsub List.mem_cons_self)
      have hsinks := ht.mapM_sink_eq hsub
      show (do
        let start := (← c.topology.link (← (Value.int l.index).asIndex)).source
        let sinks ← ((numbers (l :: path)).map Value.int).mapM
          fun (i : Value) => do return (← c.topology.link (← i.asIndex)).sink
        (start :: sinks).mapM c.topology.router) = _
      rw [Value.asIndex_int, Except.ok_bind, hlink, Except.ok_bind, hsinks]
      exact hvisited
  refine ⟨_, ?_, visited, hmem, hindices, rfl⟩
  rw [itineraryLine, routeLinks_list, Except.ok_bind, hitinerary]
  rfl

/-- The lines that show the routes of flows. -/
def Command.itineraries (c : Context) (r : RoutingResult) : Except Fault (List Text) :=
  (c.flows.zip r.routes).mapM fun (f, links) =>
    itineraryLine c.topology c.placement f (.list (links.map .int))

/-- Every flow of a legal routing has a line that shows its path. -/
theorem exists_itineraries {r : RoutingResult} {paths : List (List Link)}
    (ht : c.topology.IsSound) (hr : c.IsRouting paths) (hroutes : r.routes = paths.map numbers) :
    ∃ lines, Command.itineraries c r = .ok lines ∧ c.AreShownBy lines := by
  unfold Command.itineraries
  rw [hroutes]
  refine Except.exists_mapM_zip (List.forall₂_map_right_iff.2 (hr.imp ?_))
  rintro f path ⟨a, b, hends, hpath⟩
  obtain ⟨line, hline, hshows⟩ := itineraryLine_eq ht hends hpath.subset hpath.simple.walk
  exact ⟨line, hline, a, b, path, hends, hpath, hshows⟩

end Itinerary

/-! ### Writing lines -/

namespace Command

variable {charset : Charset} {line : Text} {lines written : List Text}

lemma writeLine_of_covers (h : charset.Covers line) :
    writeLine charset line written = .ok () (written ++ [line]) := by
  have hnone : (line.find? fun p => !charset p) = none := by
    rw [List.find?_eq_none]
    intro p hp
    rw [h p hp]
    exact Bool.false_ne_true
  rw [writeLine, hnone]
  rfl

lemma exists_writeLine (h : ¬ charset.Covers line) : ∃ p ∈ line, charset p = false ∧
    writeLine charset line written = .error (.refused (.unencodable p)) written := by
  obtain ⟨p, hfound⟩ : ∃ p, (line.find? fun p => !charset p) = some p := by
    rw [← Option.isSome_iff_exists, List.find?_isSome]
    simpa [Charset.Covers] using h
  refine ⟨p, List.mem_of_find?_eq_some hfound, ?_, ?_⟩
  · simpa using List.find?_some hfound
  · rw [writeLine, hfound]
    rfl

/-- How writing lines ends: all are written, or those before one that cannot be. -/
def Writes (charset : Charset) (lines written : List Text) :
    EStateM.Result Fault (List Text) Unit → Prop
  | .ok _ written' => written' = written ++ lines ∧ ∀ line ∈ lines, charset.Covers line
  | .error fault written' => ∃ before line after p, lines = before ++ line :: after ∧
    written' = written ++ before ∧ (∀ line ∈ before, charset.Covers line) ∧ p ∈ line ∧
    charset p = false ∧ fault = .refused (.unencodable p)

lemma Writes.cons {result : EStateM.Result Fault (List Text) Unit} (hcovers : charset.Covers line)
    (h : Writes charset lines (written ++ [line]) result) :
    Writes charset (line :: lines) written result := by
  cases result with
  | ok done written' =>
    obtain ⟨rfl, hlines⟩ := h
    exact ⟨List.append_assoc _ _ _, List.forall_mem_cons.2 ⟨hcovers, hlines⟩⟩
  | error fault written' =>
    obtain ⟨before, missed, after, p, rfl, rfl, hbefore, hmissed⟩ := h
    exact ⟨line :: before, missed, after, p, rfl, List.append_assoc _ _ _,
      List.forall_mem_cons.2 ⟨hcovers, hbefore⟩, hmissed⟩

/-- Lines that are made one by one are written until one comes that cannot be. -/
lemma writes_forM {α : Type} {make : α → Except Fault Text} {items : List α}
    (h : items.mapM make = .ok lines) :
    Writes charset lines written
      ((forM items fun a => do writeLine charset (← make a) : Steps (List Text) Unit) written) := by
  induction items generalizing lines written with
  | nil =>
    obtain rfl := Except.pure_eq_ok.1 h
    exact ⟨(List.append_nil written).symm, List.forall_mem_nil _⟩
  | cons a items ih =>
    rw [List.mapM_cons] at h
    obtain ⟨line, hline, h⟩ := Except.bind_eq_ok.1 h
    obtain ⟨rest, hrest, h⟩ := Except.bind_eq_ok.1 h
    obtain rfl := Except.pure_eq_ok.1 h
    have hmake : ∀ written, (do writeLine charset (← make a) : Steps (List Text) Unit) written =
        writeLine charset line written :=
      fun written => Steps.lift_bind_of_ok hline _ written
    rw [List.forM_cons]
    by_cases hcovers : charset.Covers line
    · rw [Steps.bind_of_ok ((hmake written).trans (writeLine_of_covers hcovers))]
      exact (ih hrest).cons hcovers
    · obtain ⟨p, hp, hmissing, hwrite⟩ := exists_writeLine hcovers
      rw [Steps.bind_of_error ((hmake written).trans hwrite)]
      exact ⟨[], line, rest, p, rfl, (List.append_nil written).symm, List.forall_mem_nil _, hp,
        hmissing, rfl⟩

/-- The routes of flows are shown line by line, until a line comes that cannot be written. -/
lemma writes_showRoutes (charset : Charset) {c : Context} {r : RoutingResult}
    (h : itineraries c r = .ok lines) :
    Writes charset lines [] (showRoutes charset c r []) :=
  writes_forM h

end Command

end NocRouting
