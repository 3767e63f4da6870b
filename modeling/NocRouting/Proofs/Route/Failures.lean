import NocRouting.Proofs.Route.Bandwidth

/-!
# Runs that fail

A run ends in a fault for one of three reasons: the model of its context cannot be built, the engine
itself ends in a fault, or the time that is left for a second search cannot be worked out.  What an
honest engine reports can always be read.

* `Route.Fails` lists the reasons, and `Route.fails` says that there are no others.
* `Route.exists_paths` says what a run has come to if it has not failed.
-/

namespace NocRouting

open RoutingModel

namespace Route

/-- The reasons for which a run ends in a fault. -/
inductive Fails (e : Engine RoutingVar) (c : Context) (o : RouteOptions) (fault : Fault) : Prop
  /-- The model cannot be built. -/
  | unbuilt (h : (build c o.resolution (.int defaultMaxOverrun)).outcome = .error fault)
  /-- The engine itself ends in a fault. -/
  | raised (h : e.Raises fault)
  /-- The time that is left for a second search cannot be worked out. -/
  | untimed (elapsed : Float) (hwanted : o.minimizesBandwidth = true)
    (h : timeLeft o.search.timeLimit elapsed = .error fault)

variable {e : Engine RoutingVar} {c : Context} {o : RouteOptions}

lemma exists_goes {outcome : Except Fault RoutingResult} (h : (route e c o).outcome = outcome) :
    ∃ posted, Goes e c o posted outcome := by
  rw [← h]
  exact ⟨_, goes e c o⟩

/-- A run fails for one of these reasons. -/
theorem fails (hc : c.IsProper) (he : e.IsHonest) {fault : Fault}
    (h : (route e c o).outcome = .error fault) : Fails e c o fault := by
  obtain ⟨posted, hgoes⟩ := exists_goes h
  cases hgoes with
  | refused _ htake => exact .raised (Engine.raises_of_take_eq_error htake)
  | unbuilt _ _ hbuild => exact .unbuilt hbuild
  | unanswered _ ha => exact .raised (.inr ⟨_, ha⟩)
  | unread hposed ha hfeasible hread =>
    obtain ⟨σ, paths, -, -, -, -, hok⟩ := he.exists_first hc hposed ha hfeasible
    rw [hok] at hread
    cases hread
  | unmeasured hroutes hwanted hfault =>
    obtain ⟨σ, paths, hvalue, -⟩ :=
      he.exists_first hc hroutes.toIsPosed hroutes.answer hroutes.feasible
    rcases hfault with hleft | hread
    · exact .untimed _ hwanted hleft
    · rw [readOverrun_eq hvalue] at hread
      cases hread
  | unrefined _ htake => exact .raised (Engine.raises_of_take_eq_error htake)
  | unanswered' _ ha => exact .raised (.inr ⟨_, ha⟩)
  | unread' hrefined ha hfeasible hread =>
    obtain ⟨σ, paths, -, -, -, -, hok⟩ := he.exists_second hc hrefined.toIsPosed ha hfeasible
    rw [hok] at hread
    cases hread

/-- A run that has found routes ends with those of a legal routing. -/
theorem exists_paths (hc : c.IsProper) (he : e.IsHonest) {result : RoutingResult}
    (h : (route e c o).outcome = .ok result) (hfeasible : result.status.isFeasible = true) :
    ∃ paths, c.IsRouting paths ∧ result.routes = paths.map numbers := by
  obtain ⟨posted, hgoes⟩ := exists_goes h
  cases hgoes with
  | idle hflows =>
    refine ⟨[], ?_, rfl⟩
    rw [Context.IsRouting, hflows]
    exact .nil
  | unrouted _ _ hinfeasible =>
    rw [hinfeasible] at hfeasible
    cases hfeasible
  | once hroutes _ => exact hroutes.exists_routing he hc
  | kept hrefined _ _ => exact hrefined.toHasRoutes.exists_routing he hc
  | twice hrefined ha hfeasible' hread =>
    obtain ⟨σ, paths, -, -, hr, -, hok⟩ :=
      he.exists_second hc hrefined.toIsPosed ha hfeasible'
    exact ⟨paths, hr, Except.ok.inj (hread.symm.trans hok)⟩

/-- A run that has found no routes ends as the first search did. -/
theorem exists_first {result : RoutingResult} (h : (route e c o).outcome = .ok result)
    (hinfeasible : result.status.isFeasible = false) :
    ∃ first, e.answer (firstRequest c o) = .ok first ∧ first.status = result.status := by
  obtain ⟨posted, hgoes⟩ := exists_goes h
  cases hgoes with
  | idle _ => cases hinfeasible
  | unrouted _ ha _ => exact ⟨_, ha, rfl⟩
  | once hroutes _ =>
    rw [hroutes.feasible] at hinfeasible
    cases hinfeasible
  | kept hrefined _ _ =>
    rw [hrefined.feasible] at hinfeasible
    cases hinfeasible
  | twice _ _ hfeasible _ =>
    rw [hfeasible] at hinfeasible
    cases hinfeasible

end Route

end NocRouting
