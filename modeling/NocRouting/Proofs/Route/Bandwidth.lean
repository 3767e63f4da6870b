import NocRouting.Proofs.Network.Mesh
import NocRouting.Proofs.Route.Protocol
import NocRouting.Proofs.Route.Refinement
import NocRouting.Proofs.Route.Soundness

/-!
# The bandwidth of the second search

The second search looks for less bandwidth than the first solution needs, but nothing that is posted
for it demands as much: its limits are about the overrun and the congested links.  So a second
solution that is an optimum needs no more bandwidth than the first one, while one that is merely
feasible may need more, and the run ends with it all the same.

* `Engine.IsHonest.ends` says what a run can come to once the first search has found routes.
* `refinement_saves_bandwidth` compares the bandwidth of what a run comes to with that of the first
  routing.
* `Route.settles` sends a run to any routing within the limits, and
  `square_refinement_loses_bandwidth` to one that needs more bandwidth than the first.
-/

namespace NocRouting

-- Empty sums are the `0` of core, whatever a reader of this module has loaded besides.
attribute [local instance (2000)] Zero.ofOfNat0

open RoutingModel

/-! ### How a run ends -/

section Ends

variable {e : Engine RoutingVar} {c : Context} {o : RouteOptions} {m : RoutingModel}
  {first : Answer RoutingVar} {paths : List (List Link)}

lemma Engine.raises_of_take_eq_error {ps made : List (Posting RoutingVar)} {fault : Fault}
    (h : e.take ps = (made, .error fault)) : e.Raises fault := by
  obtain ⟨p, -, hp⟩ := exists_of_take_eq_error h
  exact Or.inl ⟨p, hp⟩

/-- Once the first search has found routes, a run ends with them or with the routes of a second
solution, unless the engine ends in a fault or the time that is left cannot be worked out. -/
theorem Engine.IsHonest.ends (hc : c.IsProper) (he : e.IsHonest)
    (hm : (build c o.resolution (.int defaultMaxOverrun)).outcome = .ok m)
    (ha : e.answer (Route.firstRequest c o) = .ok first)
    (hfeasible : first.status.isFeasible = true) (hr : c.IsRouting paths)
    (hread : (Route.readRoutes c.topology first m.flows).outcome = .ok (paths.map numbers)) :
    (∃ fault, (route e c o).outcome = .error fault ∧ (e.Raises fault ∨
        Route.timeLeft o.search.timeLimit first.elapsed = .error fault)) ∨
      (∃ status, (route e c o).outcome = .ok ⟨status, paths.map numbers⟩) ∨
      ∃ overrun left second τ others,
        Route.IsRefined e c o m first (paths.map numbers) overrun left ∧
          (route e c o).postings = Route.secondRequest c o m first overrun left ∧
          e.answer (Route.secondRequest c o m first overrun left) = .ok second ∧
          second.status.isFeasible = true ∧ (∀ v, second.value v = .int (τ v)) ∧
          Satisfies τ (Route.secondRequest c o m first overrun left) ∧ c.IsRouting others ∧
          c.Follows τ others ∧ (route e c o).outcome = .ok ⟨second.status, others.map numbers⟩ := by
  have hgoes := Route.goes e c o
  generalize (route e c o).postings = posted, (route e c o).outcome = outcome at hgoes ⊢
  -- the routes that a run has read are those of the first routing
  have hfirst : ∀ {m' first' routes}, Route.HasRoutes e c o m' first' routes →
      m = m' ∧ first = first' ∧ routes = paths.map numbers := by
    intro m' first' routes h
    obtain ⟨rfl, rfl⟩ := h.eq_first hm ha
    exact ⟨rfl, rfl, Except.ok.inj (h.routes_eq.symm.trans hread)⟩
  cases hgoes with
  | idle hnone =>
    rw [Context.IsRouting, hnone, List.forall₂_nil_left_iff] at hr
    exact Or.inr (Or.inl ⟨_, by rw [hr]; rfl⟩)
  | refused _ htake => exact Or.inl ⟨_, rfl, Or.inl (Engine.raises_of_take_eq_error htake)⟩
  | unbuilt _ _ hfault => simp [hm] at hfault
  | unanswered _ hfault => exact Or.inl ⟨_, rfl, Or.inl (Or.inr ⟨_, hfault⟩)⟩
  | unrouted _ ha' hinfeasible =>
    obtain rfl := Except.ok.inj (ha.symm.trans ha')
    simp [hfeasible] at hinfeasible
  | unread h ha' _ hfault =>
    obtain rfl := Except.ok.inj (ha.symm.trans ha')
    obtain rfl := Except.ok.inj (hm.symm.trans h.model)
    simp [hread] at hfault
  | once h _ =>
    obtain ⟨rfl, rfl, rfl⟩ := hfirst h
    exact Or.inr (Or.inl ⟨_, rfl⟩)
  | unmeasured h _ hfault =>
    obtain ⟨rfl, rfl, rfl⟩ := hfirst h
    obtain ⟨σ, -, hvalue, -⟩ := he.exists_first hc h.toIsPosed ha hfeasible
    have hoverrun := readOverrun_eq hvalue 0 m.budgets
    rcases hfault with hleft | hfault
    · exact Or.inl ⟨_, rfl, Or.inr hleft⟩
    · simp [hoverrun] at hfault
  | unrefined _ htake => exact Or.inl ⟨_, rfl, Or.inl (Engine.raises_of_take_eq_error htake)⟩
  | unanswered' _ hfault => exact Or.inl ⟨_, rfl, Or.inl (Or.inr ⟨_, hfault⟩)⟩
  | kept h _ _ =>
    obtain ⟨rfl, rfl, rfl⟩ := hfirst h.toHasRoutes
    exact Or.inr (Or.inl ⟨_, rfl⟩)
  | unread' h ha' hfeasible' hfault =>
    obtain ⟨-, others, -, -, -, -, hok⟩ := he.exists_second hc h.toIsPosed ha' hfeasible'
    simp [hok] at hfault
  | twice h ha' hfeasible' hbetter =>
    obtain ⟨rfl, rfl, rfl⟩ := hfirst h.toHasRoutes
    obtain ⟨τ, others, hvalue, hτ, hr', hf', hok⟩ :=
      he.exists_second hc h.toIsPosed ha' hfeasible'
    obtain rfl := Except.ok.inj (hbetter.symm.trans hok)
    exact Or.inr (Or.inr
      ⟨_, _, _, τ, others, h, rfl, ha', hfeasible', hvalue, hτ, hr', hf', rfl⟩)

end Ends

/-! ### Bandwidth -/

section Bandwidth

variable {e : Engine RoutingVar} {c : Context} {o : RouteOptions} {m : RoutingModel} {r : Int}
  {first : Answer RoutingVar}

/-- What a run comes to once the first search has found a routing: a fault of the engine or of the
time limit, or a routing that has no more overrun and no more congested links than the first.  It
needs no more bandwidth either, unless it is that of a second solution that is merely feasible. -/
theorem refinement_saves_bandwidth (hc : c.IsProper) (he : e.IsHonest) (hopt : e.ProvesOptima)
    (hr : o.resolution = .int r)
    (hm : (build c o.resolution (.int defaultMaxOverrun)).outcome = .ok m)
    (ha : e.answer (Route.firstRequest c o) = .ok first)
    (hfeasible : first.status.isFeasible = true) :
    ∃ paths, c.IsRouting paths ∧ c.ReadsAs first (paths.map numbers) ∧
      ((∃ fault, (route e c o).outcome = .error fault ∧ (e.Raises fault ∨
          Route.timeLeft o.search.timeLimit first.elapsed = .error fault)) ∨
        ∃ status others, (route e c o).outcome = .ok ⟨status, others.map numbers⟩ ∧
          c.IsRouting others ∧ c.overrun others ≤ c.overrun paths ∧
          c.congested m.demands r others ≤ c.congested m.demands r paths ∧
          ((∀ between q second,
              (route e c o).postings = Route.firstRequest c o ++ between ++ [.solve q] →
              e.answer (route e c o).postings = .ok second → second.status ≠ .feasible) →
            aggregate m.demands others ≤ aggregate m.demands paths)) := by
  have h : IsAssembled c (.int r) (.int defaultMaxOverrun) (Route.built c o) m :=
    hr ▸ Route.isAssembled_built hm
  obtain ⟨σ, paths, hvalue, hσ, hrouting, hfollows, hread⟩ := he.exists_routes hc h ha hfeasible
  refine ⟨paths, hrouting, h.readRoutes_eq_ok_iff.1 hread, ?_⟩
  rcases he.ends hc hm ha hfeasible hrouting hread with hfault | ⟨status, houtcome⟩ |
    ⟨overrun, left, second, τ, others, hrefined, hposted, hsecond, hfeasible', hvalue', hτ,
      hrouting', hfollows', houtcome⟩
  · exact Or.inl hfault
  · exact Or.inr ⟨status, paths, houtcome, hrouting, le_rfl, le_rfl, fun _ => le_rfl⟩
  · have hover := hrefined.overrun_eq
    obtain ⟨hoverrun, hcongested⟩ := h.costs_le_of_satisfies_secondRequest hc hσ hvalue hover
      hrouting hfollows hτ hrouting' hfollows'
    refine Or.inr ⟨_, others, houtcome, hrouting', hoverrun, hcongested, fun hproven => ?_⟩
    have hstatus : second.status ≠ .feasible :=
      hproven _ _ second (by rw [hposted, Route.secondRequest]) (by rw [hposted, hsecond])
    have hoptimal := ((Status.isFeasible_iff _).1 hfeasible').resolve_right hstatus
    exact h.aggregate_le_of_isLeast hc hσ hvalue hover hrouting hfollows hτ hrouting' hfollows'
      (hopt _ _ hsecond hoptimal τ hvalue')

/-- Around the corner, where the second solution is an optimum. -/
theorem corner_refinement_saves_bandwidth : Corner.context.IsProper ∧
    (Engine.best : Engine RoutingVar).IsHonest ∧ (Engine.best : Engine RoutingVar).ProvesOptima ∧
    ∃ m first paths others,
      (build Corner.context Corner.options.resolution (.int defaultMaxOverrun)).outcome = .ok m ∧
      Engine.best.answer (Route.firstRequest Corner.context Corner.options) = .ok first ∧
      first.status.isFeasible = true ∧
      Corner.context.IsRouting paths ∧ Corner.context.ReadsAs first (paths.map numbers) ∧
      (route Engine.best Corner.context Corner.options).outcome =
        .ok ⟨.optimal, others.map numbers⟩ ∧
      Corner.context.IsRouting others ∧
      aggregate m.demands others ≤ aggregate m.demands paths := by
  obtain ⟨m, first, second, routes, better, overrun, left, hd, h, ha, hfirst, hsecond, hposted,
    houtcome⟩ := Corner.goes_twice
  obtain ⟨paths, hrouting, hreads, ⟨fault, hfault, -⟩ |
    ⟨status, others, houtcome', hrouting', -, -, hsaves⟩⟩ := refinement_saves_bandwidth
      Corner.isProper Engine.best_isHonest Engine.best_provesOptima rfl h.model h.answer h.feasible
  · simp [houtcome] at hfault
  · obtain ⟨rfl, -⟩ : Status.optimal = status ∧ better = others.map numbers := by
      simpa [houtcome] using houtcome'
    refine ⟨Corner.isProper, Engine.best_isHonest, Engine.best_provesOptima, m, first, paths,
      others, h.model, h.answer, h.feasible, hrouting, hreads, houtcome', hrouting', hsaves ?_⟩
    intro between q second' _ ha'
    rw [hposted] at ha'
    obtain rfl := Except.ok.inj (ha.symm.trans ha')
    simp [hsecond]

end Bandwidth

/-! ### Settling for less -/

namespace Engine

variable {ν : Type} {ps qs : List (Posting ν)} {σ : ν → Int}

open Classical in
/-- An engine that reports a best solution of one request, and settles for a solution that it is
given wherever else this is one. -/
noncomputable def settling (ps : List (Posting ν)) (σ : ν → Int) : Engine ν where
  accepts _ := .ok ()
  answer qs :=
    if qs ≠ ps ∧ Satisfies σ qs then .ok ⟨.feasible, fun v => .int (σ v), 0.0⟩
    else best.answer qs

lemma settling_answer_self : (settling ps σ).answer ps = best.answer ps :=
  if_neg fun h => h.1 rfl

lemma settling_answer (hne : qs ≠ ps) (hσ : Satisfies σ qs) :
    (settling ps σ).answer qs = .ok ⟨.feasible, fun v => .int (σ v), 0.0⟩ :=
  if_pos ⟨hne, hσ⟩

/-- What is reported is a solution that was given, or what the best engine reports. -/
lemma settling_answer_cases {a : Answer ν} (ha : (settling ps σ).answer qs = .ok a) :
    (Satisfies σ qs ∧ a = ⟨.feasible, fun v => .int (σ v), 0.0⟩) ∨ best.answer qs = .ok a := by
  by_cases h : qs ≠ ps ∧ Satisfies σ qs
  · exact Or.inl ⟨h.2, Except.ok.inj (ha.symm.trans (settling_answer h.1 h.2))⟩
  · exact Or.inr ((if_neg h).symm.trans ha)

lemma settling_isHonest : (settling ps σ).IsHonest := by
  intro qs a ha hfeasible
  rcases settling_answer_cases ha with ⟨hσ, rfl⟩ | hbest
  · exact ⟨σ, fun _ => rfl, hσ⟩
  · exact best_isHonest qs a hbest hfeasible

lemma settling_provesOptima : (settling ps σ).ProvesOptima := by
  intro qs a ha hoptimal
  rcases settling_answer_cases ha with ⟨-, rfl⟩ | hbest
  · simp at hoptimal
  · exact best_provesOptima qs a hbest hoptimal

lemma settling_finds : (settling ps σ).Finds where
  accepts _ := rfl
  answers qs hsat := by
    by_cases h : qs ≠ ps ∧ Satisfies σ qs
    · exact ⟨_, settling_answer h.1 h.2, rfl⟩
    · obtain ⟨a, ha, hfeasible⟩ := best_finds.answers qs hsat
      exact ⟨a, (if_neg h).trans ha, hfeasible⟩

end Engine

section Settling

variable {c : Context} {o : RouteOptions} {m : RoutingModel} {r : Int}
  {paths others : List (List Link)} (hc : c.IsProper)
include hc

/-- Every routing within the limits of the second search meets its request. -/
lemma IsAssembled.satisfies_secondRequest_assignment {first : Answer RoutingVar}
    {overrun left : Value} {σ : RoutingVar → Int}
    (h : IsAssembled c (.int r) (.int defaultMaxOverrun) (Route.built c o) m)
    (hσ : Satisfies σ (Route.firstRequest c o)) (ha : ∀ v, first.value v = .int (σ v))
    (hover : (Route.readOverrun first (.int 0) m.budgets).outcome = .ok overrun)
    (hr : c.IsRouting paths) (hf : c.Follows σ paths) (hr' : c.IsRouting others)
    (hoverrun : c.overrun others ≤ c.overrun paths)
    (hcongested : c.congested m.demands r others ≤ c.congested m.demands r paths) :
    Satisfies (Search.assignment m (.int r) others)
      (Route.secondRequest c o m first overrun left) := by
  have hσ' := satisfies_append_solve.1 hσ
  have hτ := h.satisfies_assignment_of_satisfies hc hσ' hr'
  refine Route.satisfies_secondRequest.2
    ⟨satisfies_append_solve.2 hτ, (h.satisfies_limits hc hσ' ha hover).2 ?_⟩
  obtain ⟨ho, hk, -⟩ := h.value_terms hc hσ' hr hf
  obtain ⟨ho', hk', -⟩ := h.value_terms hc hτ hr' (follows_assignment hc hr')
  rw [ho, ho', hk, hk']
  exact ⟨hoverrun, Int.ofNat_le.2 hcongested⟩

/-- A run can end with any routing that has no more overrun and no more congested links than others
have, however much bandwidth it needs, as the engine may settle for it in its second answer. -/
theorem Route.settles (hflows : c.flows ≠ []) (hr : o.resolution = .int r)
    (hwanted : o.minimizesBandwidth = true) (hlimit : o.search.timeLimit = .null)
    (hm : (build c o.resolution (.int defaultMaxOverrun)).outcome = .ok m)
    (hd : ∀ d ∈ m.demands, 0 ≤ d) (hrouting : c.IsRouting others)
    (hleast : ∀ paths, c.IsRouting paths → c.overrun others ≤ c.overrun paths ∧
      c.congested m.demands r others ≤ c.congested m.demands r paths) :
    ∃ (e : Engine RoutingVar) (first : Answer RoutingVar) (paths : List (List Link)),
      e.IsHonest ∧ e.ProvesOptima ∧ e.answer (Route.firstRequest c o) = .ok first ∧
        first.status = .optimal ∧ c.IsRouting paths ∧ c.ReadsAs first (paths.map numbers) ∧
        (∀ rivals, c.IsRouting rivals → c.cost m.demands r paths ≤ c.cost m.demands r rivals) ∧
        (route e c o).outcome = .ok ⟨.feasible, others.map numbers⟩ := by
  have h : IsAssembled c (.int r) (.int defaultMaxOverrun) (Route.built c o) m :=
    hr ▸ Route.isAssembled_built hm
  let τ := Search.assignment m (.int r) others
  let e : Engine RoutingVar := Engine.settling (Route.firstRequest c o) τ
  have he : e.IsHonest := Engine.settling_isHonest
  have hopt : e.ProvesOptima := Engine.settling_provesOptima
  obtain ⟨first, second, routes, better, overrun, left, hrefined, hsecond, hfeasible, hposted, -⟩ :=
    Route.goes_twice hc hr hm hrouting he Engine.settling_finds hflows hwanted fun a _ =>
      Route.exists_timeLeft_of_null hlimit a.elapsed
  have ha := hrefined.answer
  have hoptimal : first.status = .optimal :=
    h.best_first hc hd (Engine.settling_answer_self.symm.trans ha) hrefined.feasible
  obtain ⟨σ, paths, hvalue, hσ, hr', hf, hread⟩ := he.exists_routes hc h ha hrefined.feasible
  have hbest := (h.isLeast_iff hc hd (satisfies_append_solve.1 hσ) hr' hf).1
    (isLeast_append_solve.1 (hopt _ _ ha hoptimal σ hvalue))
  have hτ : Satisfies τ (Route.secondRequest c o m first overrun left) :=
    h.satisfies_secondRequest_assignment hc hσ hvalue hrefined.overrun_eq hr' hf hrouting
      (hleast _ hr').1 (hleast _ hr').2
  -- the second request is longer than the first, so the engine settles
  have hne : Route.secondRequest c o m first overrun left ≠ Route.firstRequest c o := by
    intro heq
    have hlength := congrArg List.length heq
    simp [Route.secondRequest] at hlength
  obtain rfl := Except.ok.inj (hsecond.symm.trans (Engine.settling_answer hne hτ))
  refine ⟨e, first, paths, he, hopt, ha, hoptimal, hr', h.readRoutes_eq_ok_iff.1 hread, hbest, ?_⟩
  obtain ⟨m', first', routes', overrun', left', hrefined', -, houtcome⟩ :=
    (Route.goes e c o).second hposted
  obtain rfl := Except.ok.inj (hm.symm.trans hrefined'.model)
  have hread' := h.readRoutes_eq hc (a := ⟨.feasible, fun v => .int (τ v), 0.0⟩) (fun _ => rfl)
    hrouting (follows_assignment hc hrouting)
  rw [hposted, hsecond] at houtcome
  simpa [hread', Except.map] using houtcome

end Settling

namespace Square

/-- The flow along the first row, which is alone and free to take any turn. -/
def lone : Context :=
  context .unrestricted [⟨0, .text "p", .text "q", .int 40, .null, .null, []⟩]

/-- The way along the first row. -/
def direct : List Link :=
  [topology.links[0]]

/-- The way round. -/
def detour : List Link :=
  [topology.links[2], topology.links[6], topology.links[5]]

lemma lone_isProper : lone.IsProper where
  topology := isCharted.reachable
  flows := .add ⟨.text "p", .text "q", .int 40, .null, .null, .list []⟩ .empty rfl

lemma isRouting {path : List Link} (hpath : path = direct ∨ path = detour) :
    lone.IsRouting [path] := by
  rcases hpath with rfl | rfl
  all_goals
    refine .cons ⟨0, 1, rfl, Or.inr ⟨by decide, ?_, ⟨?_, by decide⟩, by decide, ?_⟩⟩ .nil
    · simp [direct, detour, lone, context, topology]
    · simp [direct, detour, topology]
    · exact ⟨_, _, rfl, rfl, by decide, by decide⟩

lemma lone_exists_model : ∃ m, (build lone (.int 128) (.int 20)).outcome = .ok m ∧
    m.demands = [80] :=
  Except.exists_of_toOption_map (by decide)

lemma cost_direct : lone.cost [80] 128 [direct] = toLex (0, toLex (0, 80)) := by
  decide

lemma cost_detour : lone.cost [80] 128 [detour] = toLex (0, toLex (0, 240)) := by
  decide

end Square

/-- A run on the square ends with the way round, which needs more bandwidth than the first routing,
although the engine is honest and proves the optima that it reports. -/
theorem square_refinement_loses_bandwidth : Square.lone.IsProper ∧
    Corner.options.minimizesBandwidth = true ∧
    ∃ (e : Engine RoutingVar) (m : RoutingModel) (first : Answer RoutingVar)
      (paths : List (List Link)), e.IsHonest ∧ e.ProvesOptima ∧
      (build Square.lone Corner.options.resolution (.int defaultMaxOverrun)).outcome = .ok m ∧
      (∀ d ∈ m.demands, 0 ≤ d) ∧
      e.answer (Route.firstRequest Square.lone Corner.options) = .ok first ∧
      first.status = .optimal ∧
      Square.lone.IsRouting paths ∧ Square.lone.ReadsAs first (paths.map numbers) ∧
      Square.lone.IsRouting [Square.detour] ∧
      (route e Square.lone Corner.options).outcome = .ok ⟨.feasible, [numbers Square.detour]⟩ ∧
      aggregate m.demands paths < aggregate m.demands [Square.detour] := by
  obtain ⟨m, hm, hdemands⟩ := Square.lone_exists_model
  have hd : ∀ d ∈ m.demands, 0 ≤ d := by simp [hdemands]
  have hdetour : Square.lone.IsRouting [Square.detour] := Square.isRouting (Or.inr rfl)
  have hcost := Square.cost_detour
  rw [← hdemands, Context.cost, toLex_inj, Prod.mk.injEq, toLex_inj, Prod.mk.injEq] at hcost
  obtain ⟨hoverrun, hcongested, haggregate⟩ := hcost
  obtain ⟨e, first, paths, he, hopt, ha, hstatus, hr, hreads, hbest, houtcome⟩ :=
    Route.settles (r := 128) (o := Corner.options) Square.lone_isProper
      (by simp [Square.lone, Square.context]) rfl rfl rfl hm hd hdetour
      fun paths _ => ⟨hoverrun ▸ Context.overrun_nonneg, hcongested ▸ Nat.zero_le _⟩
  refine ⟨Square.lone_isProper, rfl, e, m, first, paths, he, hopt, hm, hd, ha, hstatus, hr, hreads,
    hdetour, houtcome, ?_⟩
  have hle := hbest _ (Square.isRouting (Or.inl rfl))
  rw [hdemands, Square.cost_direct, Context.cost, Prod.Lex.toLex_le_toLex,
    Prod.Lex.toLex_le_toLex] at hle
  have hlow : 0 ≤ Square.lone.overrun paths := Context.overrun_nonneg
  rw [haggregate, hdemands]
  omega

end NocRouting
