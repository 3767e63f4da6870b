import NocRouting.Proofs.Route.Completeness

/-!
# Routes are legal paths

An engine that is honest reports solutions of the model, and what is read off a solution is a legal
routing.  So chains never fail in a run, and its routes are legal (`route_sound`).
-/

namespace NocRouting

-- Empty sums are the `0` of core, whatever a reader of this module has loaded besides.
attribute [local instance (2000)] Zero.ofOfNat0

open RoutingModel

/-- The engine itself ends in a fault, when it is given a posting or asked to solve. -/
def Engine.Raises {ν : Type} (e : Engine ν) (fault : Fault) : Prop :=
  (∃ p, e.accepts p = .error fault) ∨ ∃ ps, e.answer ps = .error fault

/-! ### Runs -/

section Runs

variable {e : Engine RoutingVar} {c : Context} {o : RouteOptions} {m : RoutingModel}
  {first : Answer RoutingVar} {routes : List (List Int)} {overrun left : Value}

/-- The routes of a legal routing. -/
lemma Context.IsRouting.forall₂_numbers {paths : List (List Link)} (hr : c.IsRouting paths) :
    List.Forall₂ (fun f route => ∃ a b path, c.flowRouters f = .ok (a, b) ∧
      route = numbers path ∧ (route = [] ↔ a = b) ∧ path ⊆ c.topology.links ∧
      IsSimplePath a path b ∧
      path.IsChain fun k l => (k.index, l.index) ∉ c.topology.illegalTurns c.turnModel)
      c.flows (paths.map numbers) := by
  rw [List.forall₂_map_right_iff]
  refine hr.imp ?_
  rintro f path ⟨a, b, hab, hpath⟩
  refine ⟨a, b, path, hab, rfl, ?_, hpath.subset, hpath.simple, hpath.legal⟩
  rw [← hpath.simple.eq_nil_iff]
  simp [numbers]

/-- The routes of a run are the paths of a legal routing, and no chain fails in it unless the engine
itself says so. -/
theorem route_sound (hc : c.IsProper) (he : e.IsHonest)
    (hm : (build c o.resolution (.int defaultMaxOverrun)).outcome = .ok m) :
    (∀ cause links, (route e c o).outcome = .error (.chain cause links) →
      e.Raises (.chain cause links)) ∧
    ∀ result, (route e c o).outcome = .ok result → result.status.isFeasible = true →
      List.Forall₂ (fun f route => ∃ a b path, c.flowRouters f = .ok (a, b) ∧
        route = numbers path ∧ (route = [] ↔ a = b) ∧ path ⊆ c.topology.links ∧
        IsSimplePath a path b ∧
        path.IsChain fun k l => (k.index, l.index) ∉ c.topology.illegalTurns c.turnModel)
        c.flows result.routes := by
  have hgoes := Route.goes e c o
  generalize (route e c o).postings = posted, (route e c o).outcome = outcome at hgoes ⊢
  refine ⟨?_, ?_⟩
  · rintro cause links rfl
    cases hgoes with
    | refused _ htake =>
      obtain ⟨p, -, hp⟩ := Engine.exists_of_take_eq_error htake
      exact Or.inl ⟨p, hp⟩
    | unbuilt _ _ hbuild => simp [hm] at hbuild
    | unanswered _ ha => exact Or.inr ⟨_, ha⟩
    | unread h ha hfeasible hread =>
      obtain ⟨σ, paths, -, -, -, -, hok⟩ := he.exists_first hc h ha hfeasible
      simp [hok] at hread
    | unmeasured h _ hfault =>
      obtain ⟨σ, paths, hvalue, -⟩ := he.exists_first hc h.toIsPosed h.answer h.feasible
      rcases hfault with hleft | hread
      · have := timeLeft_eq_error hleft
        simp at this
      · simp [readOverrun_eq hvalue] at hread
    | unrefined _ htake =>
      obtain ⟨p, -, hp⟩ := Engine.exists_of_take_eq_error htake
      exact Or.inl ⟨p, hp⟩
    | unanswered' _ ha => exact Or.inr ⟨_, ha⟩
    | unread' h ha hfeasible hread =>
      obtain ⟨σ, paths, -, -, -, -, hok⟩ := he.exists_second hc h.toIsPosed ha hfeasible
      simp [hok] at hread
  · rintro result rfl hfeasible
    cases hgoes with
    | idle hflows =>
      rw [hflows]
      exact .nil
    | unrouted _ _ hinfeasible => simp [hinfeasible] at hfeasible
    | once h _ =>
      obtain ⟨paths, hr, rfl⟩ := h.exists_routing he hc
      exact hr.forall₂_numbers
    | kept h _ _ =>
      obtain ⟨paths, hr, rfl⟩ := h.exists_routing he hc
      exact hr.forall₂_numbers
    | twice h ha _ hread =>
      obtain ⟨σ, paths, -, -, hr, -, hok⟩ := he.exists_second hc h.toIsPosed ha hfeasible
      obtain rfl := Except.ok.inj (hread.symm.trans hok)
      exact hr.forall₂_numbers

/-- Around the corner, where both searches find routes. -/
theorem corner_route_sound : Corner.context.IsProper ∧ (Engine.best : Engine RoutingVar).IsHonest ∧
    (∃ m, (build Corner.context Corner.options.resolution (.int defaultMaxOverrun)).outcome =
      .ok m) ∧
    (∀ cause links, (route Engine.best Corner.context Corner.options).outcome ≠
      .error (.chain cause links)) ∧
    ∃ result, (route Engine.best Corner.context Corner.options).outcome = .ok result ∧
      result.status.isFeasible = true ∧
      List.Forall₂ (fun f route => ∃ a b path, Corner.context.flowRouters f = .ok (a, b) ∧
        route = numbers path ∧ (route = [] ↔ a = b) ∧ path ⊆ Corner.topology.links ∧
        IsSimplePath a path b ∧
        path.IsChain fun k l => (k.index, l.index) ∉ Corner.topology.illegalTurns .xy)
        Corner.traffic result.routes := by
  obtain ⟨m, first, second, routes, better, overrun, left, -, h, -, -, -, -, houtcome⟩ :=
    Corner.goes_twice
  have hsound := route_sound Corner.isProper Engine.best_isHonest h.model
  refine ⟨Corner.isProper, Engine.best_isHonest, ⟨m, h.model⟩, ?_, _, houtcome, rfl,
    hsound.2 _ houtcome rfl⟩
  intro cause links hfault
  simp [houtcome] at hfault

end Runs

end NocRouting
