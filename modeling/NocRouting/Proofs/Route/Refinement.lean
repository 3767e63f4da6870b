import NocRouting.Proofs.Route.Completeness

/-!
# The second search

The second search looks for less bandwidth, and is held to the overrun and to the number of
congested links that the first search achieved.  The first solution meets these limits itself, so
there is always something to find; and if both searches end with an optimum, the second has lost
nothing that the first had (`refinement_keeps_priorities`).
-/

namespace NocRouting

-- Empty sums are the `0` of core, whatever a reader of this module has loaded besides.
attribute [local instance (2000)] Zero.ofOfNat0

open RoutingModel

/-! ### Two solutions -/

section Solutions

variable {c : Context} {o : RouteOptions} {m : RoutingModel} {r : Int} {first : Answer RoutingVar}
  {overrun left : Value} {σ τ : RoutingVar → Int} {paths others : List (List Link)}
  (hc : c.IsProper) (h : IsAssembled c (.int r) (.int defaultMaxOverrun) (Route.built c o) m)
  (hσ : Satisfies σ (Route.firstRequest c o)) (ha : ∀ v, first.value v = .int (σ v))
  (hover : (Route.readOverrun first (.int 0) m.budgets).outcome = .ok overrun)
  (hr : c.IsRouting paths) (hf : c.Follows σ paths)
  (hτ : Satisfies τ (Route.secondRequest c o m first overrun left)) (hr' : c.IsRouting others)
  (hf' : c.Follows τ others)
include hc h hσ ha hover hr hf hτ hr' hf'

/-- The second routing has no more overrun and no more congested links than the first. -/
lemma IsAssembled.costs_le_of_satisfies_secondRequest : c.overrun others ≤ c.overrun paths ∧
    c.congested m.demands r others ≤ c.congested m.demands r paths := by
  obtain ⟨hτ₁, hlimits⟩ := Route.satisfies_secondRequest.1 hτ
  exact h.costs_le_of_satisfies_refinement hc (satisfies_append_solve.1 hσ) ha hover hr hf
    (satisfies_append_solve.1 hτ₁) hr' hf' hlimits

/-- If the second solution has the least bandwidth within the limits, the second routing needs no
more of it than the first. -/
lemma IsAssembled.aggregate_le_of_isLeast
    (hleast : IsLeast τ (Route.secondRequest c o m first overrun left)) :
    aggregate m.demands others ≤ aggregate m.demands paths := by
  have hτ₁ := (Route.satisfies_secondRequest.1 hτ).1
  have hagg := hleast _ Route.lastObjective?_secondRequest σ
    (h.satisfies_secondRequest_self hc hσ ha hover)
  rwa [(h.value_terms hc (satisfies_append_solve.1 hσ) hr hf).2.2,
    (h.value_terms hc (satisfies_append_solve.1 hτ₁) hr' hf').2.2] at hagg

/-- If the second solution has the least bandwidth within the limits, the second routing is as good
as the first by all costs. -/
lemma IsAssembled.cost_le_of_isLeast
    (hleast : IsLeast τ (Route.secondRequest c o m first overrun left)) :
    c.cost m.demands r others ≤ c.cost m.demands r paths := by
  obtain ⟨hoverrun, hcongested⟩ :=
    h.costs_le_of_satisfies_secondRequest hc hσ ha hover hr hf hτ hr' hf'
  have hagg := h.aggregate_le_of_isLeast hc hσ ha hover hr hf hτ hr' hf' hleast
  rw [Context.cost, Context.cost, Prod.Lex.toLex_le_toLex, Prod.Lex.toLex_le_toLex]
  omega

/-- If both solutions are best ones, the second routing is a best one by all costs, and is worth as
much as the first by the objective of the first search. -/
lemma IsAssembled.isLeast_firstRequest (hd : ∀ d ∈ m.demands, 0 ≤ d)
    (hfirst : IsLeast σ (Route.firstRequest c o))
    (hleast : IsLeast τ (Route.secondRequest c o m first overrun left)) :
    (∀ rivals, c.IsRouting rivals →
      c.cost m.demands r others ≤ c.cost m.demands r rivals) ∧
    ∀ expr, NocRouting.lastObjective? (Route.firstRequest c o) = some expr →
      expr.value τ = expr.value σ := by
  have hbuilt : Satisfies σ (Route.built c o) := satisfies_append_solve.1 hσ
  have hτ₁ := (Route.satisfies_secondRequest.1 hτ).1
  have hcost := h.cost_le_of_isLeast hc hσ ha hover hr hf hτ hr' hf' hleast
  have hbest := (h.isLeast_iff hc hd hbuilt hr hf).1 (isLeast_append_solve.1 hfirst)
  refine ⟨fun rivals hrivals => hcost.trans (hbest rivals hrivals), fun expr he => ?_⟩
  have hexpr := h.lastObjective?.symm.trans (lastObjective?_append_solve.symm.trans he)
  obtain rfl := Option.some.inj hexpr
  refine Int.le_antisymm ?_ (hfirst _ he τ hτ₁)
  exact (h.value_objective_le_iff hc hd (satisfies_append_solve.1 hτ₁) hr' hf' hbuilt hr hf).2 hcost

end Solutions

/-! ### Runs -/

section Runs

variable {e : Engine RoutingVar} {c : Context} {o : RouteOptions} {m : RoutingModel} {r : Int}
  {first : Answer RoutingVar}

/-- The second search keeps to what the first achieved: its limits are met by the first solution,
its routing has no more overrun and no more congested links, and if both searches end with an
optimum, its routing is a best one by all costs, and is worth as much by the objective of the
first. -/
theorem refinement_keeps_priorities (hc : c.IsProper) (he : e.IsHonest) (hopt : e.ProvesOptima)
    (hr : o.resolution = .int r)
    (hm : (build c o.resolution (.int defaultMaxOverrun)).outcome = .ok m)
    (hd : ∀ d ∈ m.demands, 0 ≤ d) (ha : e.answer (Route.firstRequest c o) = .ok first)
    (hfeasible : first.status.isFeasible = true) :
    ∃ σ paths, (∀ v, first.value v = .int (σ v)) ∧ c.IsRouting paths ∧ c.Follows σ paths ∧
      Satisfies σ (route e c o).postings ∧
      ∀ between q second,
        (route e c o).postings = Route.firstRequest c o ++ between ++ [.solve q] →
        e.answer (route e c o).postings = .ok second → second.status.isFeasible = true →
        ∃ σ' paths', (∀ v, second.value v = .int (σ' v)) ∧ c.IsRouting paths' ∧
          c.Follows σ' paths' ∧
          (route e c o).outcome = .ok ⟨second.status, paths'.map numbers⟩ ∧
          c.overrun paths' ≤ c.overrun paths ∧
          c.congested m.demands r paths' ≤ c.congested m.demands r paths ∧
          (first.status = .optimal → second.status = .optimal →
            (∀ others, c.IsRouting others →
              c.cost m.demands r paths' ≤ c.cost m.demands r others) ∧
            ∀ e₁, lastObjective? (Route.firstRequest c o) = some e₁ →
              e₁.value σ' = e₁.value σ) := by
  have h : IsAssembled c (.int r) (.int defaultMaxOverrun) (Route.built c o) m :=
    hr ▸ Route.isAssembled_built hm
  obtain ⟨σ, paths, hvalue, hσ, hrouting, hfollows, -⟩ := he.exists_routes hc h ha hfeasible
  have hgoes := Route.goes e c o
  refine ⟨σ, paths, hvalue, hrouting, hfollows, ?_, ?_⟩
  · rcases hgoes.isPrefix with hpre | ⟨m', first', routes, overrun, left, hmeasured, hpre⟩
    · exact fun p hp => hσ p (hpre.subset hp)
    · obtain ⟨rfl, rfl⟩ := hmeasured.eq_first hm ha
      have hself : Satisfies σ (Route.secondRequest c o m' first' overrun left) :=
        h.satisfies_secondRequest_self hc hσ hvalue hmeasured.overrun_eq
      exact fun p hp => hself p (hpre.subset hp)
  · intro between q second hposted hsecond hfeasible'
    obtain ⟨m', first', routes, overrun, left, hrefined, hrequest, houtcome⟩ :=
      hgoes.second hposted
    obtain ⟨rfl, rfl⟩ := hrefined.eq_first hm ha
    have hover := hrefined.overrun_eq
    rw [hsecond] at houtcome
    rw [hrequest] at hsecond
    obtain ⟨τ, others, hvalue', hτ, hrouting', hfollows', hread⟩ :=
      he.exists_second hc hrefined.toIsPosed hsecond hfeasible'
    have hcosts := h.costs_le_of_satisfies_secondRequest hc hσ hvalue hover hrouting hfollows hτ
      hrouting' hfollows'
    refine ⟨τ, others, hvalue', hrouting', hfollows', ?_, hcosts.1, hcosts.2, ?_⟩
    · simpa [hfeasible', hread, Except.map] using houtcome
    · intro hoptimal hoptimal'
      exact h.isLeast_firstRequest hc hσ hvalue hover hrouting hfollows hτ hrouting' hfollows' hd
        (hopt _ _ ha hoptimal σ hvalue) (hopt _ _ hsecond hoptimal' τ hvalue')

/-- Around the corner, where both searches end with an optimum. -/
theorem corner_refinement_keeps_priorities : Corner.context.IsProper ∧
    (Engine.best : Engine RoutingVar).IsHonest ∧ (Engine.best : Engine RoutingVar).ProvesOptima ∧
    ∃ m first second σ paths σ' paths',
      (build Corner.context Corner.options.resolution (.int defaultMaxOverrun)).outcome = .ok m ∧
      (∀ d ∈ m.demands, 0 ≤ d) ∧
      Engine.best.answer (Route.firstRequest Corner.context Corner.options) = .ok first ∧
      Engine.best.answer (route Engine.best Corner.context Corner.options).postings = .ok second ∧
      first.status = .optimal ∧ second.status = .optimal ∧
      (∀ v, first.value v = .int (σ v)) ∧ Corner.context.Follows σ paths ∧
      Satisfies σ (route Engine.best Corner.context Corner.options).postings ∧
      (∀ v, second.value v = .int (σ' v)) ∧ Corner.context.Follows σ' paths' ∧
      (route Engine.best Corner.context Corner.options).outcome =
        .ok ⟨second.status, paths'.map numbers⟩ ∧
      Corner.context.overrun paths' ≤ Corner.context.overrun paths ∧
      Corner.context.congested m.demands 128 paths' ≤
        Corner.context.congested m.demands 128 paths ∧
      ∀ others, Corner.context.IsRouting others →
        Corner.context.cost m.demands 128 paths' ≤ Corner.context.cost m.demands 128 others := by
  obtain ⟨m, first, second, routes, better, overrun, left, hd, h, ha, hfirst, hsecond, hposted,
    houtcome⟩ := Corner.goes_twice
  obtain ⟨σ, paths, hvalue, -, hfollows, hσ, hrefined⟩ := refinement_keeps_priorities
    Corner.isProper Engine.best_isHonest Engine.best_provesOptima rfl h.model hd h.answer h.feasible
  obtain ⟨σ', paths', hvalue', -, hfollows', houtcome', hover, hcong, hbest⟩ :=
    hrefined _ _ second (by rw [hposted, Route.secondRequest]) (by rw [hposted, ha])
      (by rw [hsecond]; rfl)
  exact ⟨Corner.isProper, Engine.best_isHonest, Engine.best_provesOptima, m, first, second, σ,
    paths, σ', paths', h.model, hd, h.answer, hposted ▸ ha, hfirst, hsecond, hvalue, hfollows, hσ,
    hvalue', hfollows', houtcome', hover, hcong, (hbest hfirst hsecond).1⟩

end Runs

end NocRouting
