import NocRouting.Proofs.Network.Chains
import NocRouting.Proofs.Route.Completeness
import NocRouting.Proofs.Route.Order

/-!
# The protocol of the two searches

What a run does is settled by the answers of the engine, whatever they are.

* `Context.ReadsAs` says which routes a solution is read as, and `Context.Yields` what a run comes
  to if it ends with that solution.
* `Route.RunsAgain` says when a second search is made.
* `solve_protocol` says what is posted, what is read and what the result is, against any engine.
-/

namespace NocRouting

-- Empty sums are the `0` of core, whatever a reader of this module has loaded besides.
attribute [local instance (2000)] Zero.ofOfNat0

open RoutingModel

/-! ### Routes of a solution -/

namespace Context

/-- The routes that a solution is read as: for every flow the numbers of the links it takes, which
form a chain between its ends, in travelling order. -/
def ReadsAs (c : Context) (a : Answer RoutingVar) (routes : List (List Int)) : Prop :=
  List.Forall₂ (fun f route => ∃ source sink chain, c.flowRouters f = .ok (source, sink) ∧
    c.topology.chain (Route.selected c.topology a f.id) (some (.int source)) (some (.int sink)) =
      .ok chain ∧ route = chain.map fun g => (g.2.index : Int)) c.flows routes

/-- What a run comes to if it ends with a solution: its routes, or a fault if the links of a flow
form no chain. -/
def Yields (c : Context) (a : Answer RoutingVar) (outcome : Except Fault RoutingResult) : Prop :=
  (∃ routes, c.ReadsAs a routes ∧ outcome = .ok ⟨a.status, routes⟩) ∨
    (∀ routes, ¬ c.ReadsAs a routes) ∧ ∃ cause links, outcome = .error (.chain cause links)

end Context

namespace Route

section Reading

variable {t : Topology} {a : Answer RoutingVar} {flows : List RoutedFlow}

/-- Reading ends with routes if the links of every flow form a chain. -/
lemma readRoutes_eq_ok_iff {routes : List (List Int)} : (readRoutes t a flows).outcome = .ok routes ↔
    List.Forall₂ (fun g route => ∃ chain, t.chain (selected t a g.flow.id)
      (some (.int g.source)) (some (.int g.sink)) = .ok chain ∧
      route = chain.map fun g => (g.2.index : Int)) flows routes := by
  rw [outcome_readRoutes, Except.mapM_eq_ok]
  simp only [Except.map_eq_ok, @eq_comm _ (List.map _ _)]

/-- Reading ends with a fault if the links of some flow form no chain. -/
lemma exists_of_readRoutes_eq_error {fault : Fault} (h : (readRoutes t a flows).outcome = .error fault) :
    ∃ g ∈ flows, t.chain (selected t a g.flow.id) (some (.int g.source)) (some (.int g.sink)) =
      .error fault := by
  rw [outcome_readRoutes] at h
  obtain ⟨g, hg, hfault⟩ := Except.exists_of_mapM_eq_error h
  exact ⟨g, hg, Except.map_eq_error.1 hfault⟩

end Reading

/-! ### Time and reason for a second search -/

lemma exists_of_minus_eq_ok {v w x : Value} (h : v.minus w = .ok x) : ∃ n, x = .number n := by
  simp only [Value.minus, Value.combined, Except.bind_eq_ok, Except.pure_eq_ok] at h
  obtain ⟨_, -, _, -, n, -, rfl⟩ := h
  exact ⟨n, rfl⟩

/-- There is time for a second search: it is not limited, or something of the limit is left. -/
def HasTime (limit : Value) (elapsed : Float) (left : Value) : Prop :=
  (limit = .null ∧ left = .null) ∨
    limit ≠ .null ∧ ∃ n, limit.minus (.number (.float elapsed)) = .ok (.number n) ∧
      n.le 0 = false ∧ left = .number n

/-- What is left of a limit is the limit without the time that has passed. -/
lemma timeLeft_of_ne_null {limit : Value} (h : limit ≠ .null) (elapsed : Float) :
    timeLeft limit elapsed = limit.minus (.number (.float elapsed)) := by
  unfold timeLeft
  split
  · exact absurd rfl h
  · rfl

lemma hasTime_iff {limit left : Value} {elapsed : Float} :
    HasTime limit elapsed left ↔ timeLeft limit elapsed = .ok left ∧ isSpent left = false := by
  by_cases hlimit : limit = .null
  · subst hlimit
    constructor
    · rintro (⟨-, rfl⟩ | ⟨hne, -⟩)
      · exact ⟨rfl, rfl⟩
      · exact absurd rfl hne
    · rintro ⟨hleft, -⟩
      exact Or.inl ⟨rfl, (Except.ok.inj hleft).symm⟩
  · rw [timeLeft_of_ne_null hlimit]
    constructor
    · rintro (⟨hnull, -⟩ | ⟨-, n, hn, hle, rfl⟩)
      · exact absurd hnull hlimit
      · exact ⟨hn, hle⟩
    · rintro ⟨hn, hspent⟩
      obtain ⟨n, rfl⟩ := exists_of_minus_eq_ok hn
      exact Or.inr ⟨hlimit, n, hn, hspent, rfl⟩

/-- A second search is made: the first one has found links that form chains, less bandwidth is
wanted, and there is time for it. -/
structure RunsAgain (c : Context) (o : RouteOptions) (first : Answer RoutingVar) (left : Value) :
    Prop where
  feasible : first.status.isFeasible = true
  chains : ∃ routes, c.ReadsAs first routes
  wanted : o.minimizesBandwidth = true
  time : HasTime o.search.timeLimit first.elapsed left

/-- What is posted between the two searches: upper bounds for the overrun and for the number of
congested links, which are those of the first solution, a hint for every flow and link in place of
all others, which is the value in the first solution, and the bandwidth as the objective. -/
def between (c : Context) (m : RoutingModel) (first : Answer RoutingVar) :
    List (Posting RoutingVar) :=
  [.constrain (.linear (totalOverrun m.budgets) none
      (some (.int (m.budgets.map fun b => (first.value (.overrun b.1)).whole).sum)) none),
    .constrain (.linear (totalCongested m.numLinks) none
      (some (.int (c.topology.links.countP fun l => first.isTrue (.congested l.index)))) none),
    .clearHints] ++
  (c.flows.flatMap fun f => c.topology.links.map fun l =>
    .hint (.link f.id l.index) (if first.isTrue (.link f.id l.index) then 1 else 0)) ++
  [.minimize (aggregateBandwidth m.flows.length m.demands m.numLinks)]

end Route

/-! ### Models -/

section Models

variable {c : Context} {m : RoutingModel} {ps : List (Posting RoutingVar)}
  {resolution maxOverrun : Value} {a first : Answer RoutingVar} (hc : c.IsProper)
  (h : IsAssembled c resolution maxOverrun ps m)

include h in
/-- The routes that a run reads are those that the solution is read as. -/
lemma IsAssembled.readRoutes_eq_ok_iff {routes : List (List Int)} :
    (Route.readRoutes c.topology a m.flows).outcome = .ok routes ↔ c.ReadsAs a routes := by
  rw [Route.readRoutes_eq_ok_iff]
  constructor
  · intro hroutes
    refine (forall₂_of_same h.flows.flip hroutes).imp ?_
    rintro f route ⟨g, ⟨rfl, hends⟩, chain, hchain, hroute⟩
    exact ⟨_, _, chain, hends, hchain, hroute⟩
  · intro hroutes
    refine (forall₂_of_same h.flows hroutes).imp ?_
    rintro g route ⟨f, ⟨rfl, hends⟩, source, sink, chain, hends', hchain, hroute⟩
    obtain ⟨rfl, rfl⟩ : g.source = source ∧ g.sink = sink := by simpa [hends] using hends'
    exact ⟨chain, hchain, hroute⟩

include hc h

/-- What a run reads is what it comes to. -/
lemma IsAssembled.yields : c.Yields a
    ((Route.readRoutes c.topology a m.flows).outcome.map (⟨a.status, ·⟩)) := by
  cases hread : (Route.readRoutes c.topology a m.flows).outcome with
  | ok routes => exact Or.inl ⟨routes, h.readRoutes_eq_ok_iff.1 hread, rfl⟩
  | error fault =>
    refine Or.inr ⟨fun routes hroutes => ?_, ?_⟩
    · simp [h.readRoutes_eq_ok_iff.2 hroutes] at hread
    · obtain ⟨g, -, hchain⟩ := Route.exists_of_readRoutes_eq_error hread
      rw [Route.selected, ← Link.map_numbered_fst] at hchain
      obtain ⟨cause, rfl⟩ := Topology.exists_of_chain_eq_error
        (hc.topology.isSound.gives_numbered (List.filter_subset_self _)) hchain
      exact ⟨cause, _, rfl⟩

/-- The refinement in terms of the context. -/
lemma IsAssembled.refinement_eq : Route.refinement m first
    (.int (m.budgets.map fun b => (first.value (.overrun b.1)).whole).sum) =
      Route.between c m first := by
  have hrange : List.range m.numLinks = c.topology.links.map (·.index) := by
    rw [h.numLinks, hc.topology.isSound.link_index]
  have hcongested : Route.congestedOf m first =
      c.topology.links.countP fun l => first.isTrue (.congested l.index) := by
    rw [Route.congestedOf, hrange, List.countP_map]
    rfl
  have hvars : Route.allLinkVars m =
      c.flows.flatMap fun f => c.topology.links.map fun l => .link f.id l.index := by
    rw [Route.allLinkVars, hrange, ← h.flows_eq, List.flatMap_map]
    simp only [List.map_map, Function.comp_def]
  rw [Route.refinement_eq, Route.between, hcongested, hvars, List.map_flatMap]
  simp only [List.map_map, Function.comp_def]

end Models

/-! ### The protocol -/

namespace Route

/-- What a run posts and what it comes to, once the first request is answered. -/
structure KeepsProtocol (e : Engine RoutingVar) (c : Context) (o : RouteOptions) (m : RoutingModel)
    (first : Answer RoutingVar) (posted : List (Posting RoutingVar))
    (outcome : Except Fault RoutingResult) : Prop where
  /-- If there is reason and time for it, a second search is made with the time left; the run ends
  with its solution, or with the first one if it finds none. -/
  again : ∀ left, RunsAgain c o first left → ∃ second,
    posted = firstRequest c o ++ between c m first ++ [.solve { o.search with timeLimit := left }] ∧
      e.answer posted = .ok second ∧
      if second.status.isFeasible then c.Yields second outcome else c.Yields first outcome
  /-- Otherwise there is only one search.  The run ends with its solution, unless the time left
  cannot be worked out, or without routes if it finds none. -/
  once : (∀ left, ¬ RunsAgain c o first left) → posted = firstRequest c o ∧
    if first.status.isFeasible then c.Yields first outcome ∨ o.search.timeLimit ≠ .null ∧
      ∃ fault, o.search.timeLimit.minus (.number (.float first.elapsed)) = .error fault ∧
        outcome = .error fault
    else outcome = .ok ⟨first.status, []⟩

section Protocol

variable {e : Engine RoutingVar} {c : Context} {o : RouteOptions} {m : RoutingModel}
  {first second : Answer RoutingVar} {routes : List (List Int)} {overrun left : Value}
  {outcome : Except Fault RoutingResult}

lemma HasTime.eq {limit left left' : Value} {elapsed : Float} (h : HasTime limit elapsed left)
    (h' : HasTime limit elapsed left') : left = left' := by
  rw [hasTime_iff] at h h'
  exact Except.ok.inj (h.1.symm.trans h'.1)

lemma IsPosed.yields (hc : c.IsProper) (h : IsPosed e c o m) {a : Answer RoutingVar}
    {read : Except Fault (List (List Int))} (hread : (readRoutes c.topology a m.flows).outcome = read) :
    c.Yields a (read.map (⟨a.status, ·⟩)) :=
  hread ▸ h.isAssembled.yields hc

lemma HasRoutes.yields (hc : c.IsProper) (h : HasRoutes e c o m first routes) :
    c.Yields first (.ok ⟨first.status, routes⟩) :=
  h.toIsPosed.yields hc h.routes_eq

lemma IsMeasured.runsAgain (h : IsMeasured e c o m first routes overrun left) :
    RunsAgain c o first left where
  feasible := h.feasible
  chains := ⟨routes, h.isAssembled.readRoutes_eq_ok_iff.1 h.routes_eq⟩
  wanted := h.wanted
  time := hasTime_iff.2 ⟨h.left_eq, h.unspent⟩

/-- A run that has made two searches keeps to the protocol. -/
lemma IsRefined.keepsProtocol (hc : c.IsProper) (h : IsRefined e c o m first routes overrun left)
    (hcounters : ∀ f, (first.value (.overrun f)).IsWhole)
    (ha : e.answer (secondRequest c o m first overrun left) = .ok second)
    (houtcome : if second.status.isFeasible then c.Yields second outcome
      else c.Yields first outcome) :
    KeepsProtocol e c o m first (secondRequest c o m first overrun left) outcome := by
  have hoverrun := h.overrun_eq
  rw [readOverrun_eq_sum hcounters, Int.zero_add] at hoverrun
  obtain rfl := Except.ok.inj hoverrun
  refine ⟨fun left' hagain => ⟨second, ?_, ha, houtcome⟩, fun hnone => ?_⟩
  · obtain rfl := h.toIsMeasured.runsAgain.time.eq hagain.time
    rw [secondRequest, h.isAssembled.refinement_eq hc]
  · exact absurd h.toIsMeasured.runsAgain (hnone left)

/-- A run that has made one search keeps to the protocol if there is no reason or no time for a
second one. -/
lemma keepsProtocol_of_not_runsAgain (hnone : ∀ left, ¬ RunsAgain c o first left)
    (houtcome : if first.status.isFeasible then c.Yields first outcome ∨
      o.search.timeLimit ≠ .null ∧
      ∃ fault, o.search.timeLimit.minus (.number (.float first.elapsed)) = .error fault ∧
        outcome = .error fault
    else outcome = .ok ⟨first.status, []⟩) :
    KeepsProtocol e c o m first (firstRequest c o) outcome :=
  ⟨fun left hagain => absurd hagain (hnone left), fun _ => ⟨rfl, houtcome⟩⟩

/-- A run that ends with the routes of its first search, for want of a reason or of time to go on,
keeps to the protocol. -/
lemma HasRoutes.keepsProtocol (hc : c.IsProper) (h : HasRoutes e c o m first routes)
    (hended : o.minimizesBandwidth = false ∨
      ∃ left, timeLeft o.search.timeLimit first.elapsed = .ok left ∧ isSpent left = true) :
    KeepsProtocol e c o m first (firstRequest c o) (.ok ⟨first.status, routes⟩) := by
  refine keepsProtocol_of_not_runsAgain (fun left hagain => ?_) ?_
  · rcases hended with hunwanted | ⟨left', hleft, hspent⟩
    · simp [hagain.wanted] at hunwanted
    · obtain ⟨hleft', hunspent⟩ := hasTime_iff.1 hagain.time
      obtain rfl := Except.ok.inj (hleft.symm.trans hleft')
      simp [hspent] at hunspent
  · rw [if_pos h.feasible]
    exact Or.inl (h.yields hc)

/-- A run that cannot work out the time that is left keeps to the protocol. -/
lemma HasRoutes.keepsProtocol_of_timeLeft_eq_error {fault : Fault}
    (h : HasRoutes e c o m first routes)
    (htime : timeLeft o.search.timeLimit first.elapsed = .error fault) :
    KeepsProtocol e c o m first (firstRequest c o) (.error fault) := by
  have hlimit : o.search.timeLimit ≠ .null := by
    intro hnull
    rw [hnull] at htime
    simp [timeLeft, pure, Except.pure] at htime
  refine keepsProtocol_of_not_runsAgain (fun left hagain => ?_) ?_
  · simp [(hasTime_iff.1 hagain.time).1] at htime
  · rw [timeLeft_of_ne_null hlimit] at htime
    rw [if_pos h.feasible]
    exact Or.inr ⟨hlimit, fault, htime, rfl⟩

end Protocol

end Route

/-- Against an engine that takes everything and answers every request, whatever it answers, building
asks for no search, values are read only where there is a solution, and the answers settle what is
posted and what the run comes to. -/
theorem solve_protocol {e : Engine RoutingVar} {c : Context} {o : RouteOptions} {m : RoutingModel}
    (hc : c.IsProper) (hflows : c.flows ≠ [])
    (hm : (build c o.resolution (.int defaultMaxOverrun)).outcome = .ok m)
    (haccepts : ∀ p, e.accepts p = .ok ()) (hanswers : ∀ ps, ∃ a, e.answer ps = .ok a)
    (hcounters : ∀ ps a, e.answer ps = .ok a → ∀ f, (a.value (.overrun f)).IsWhole) :
    (∀ p ∈ Route.built c o, p.IsBuilding) ∧ Route.ReadsSolutions e [] (route e c o).steps ∧
      ∃ first, e.answer (Route.firstRequest c o) = .ok first ∧
        Route.KeepsProtocol e c o m first (route e c o).postings (route e c o).outcome := by
  refine ⟨isBuilding_of_mem_build, Route.readsSolutions e c o, ?_⟩
  obtain ⟨first, hfirst⟩ := hanswers (Route.firstRequest c o)
  refine ⟨first, hfirst, ?_⟩
  have hanswered : ∀ ps fault, e.answer ps ≠ .error fault := by
    intro ps fault hfault
    obtain ⟨a, ha⟩ := hanswers ps
    simp [ha] at hfault
  have hgoes := Route.goes e c o
  generalize (route e c o).postings = posted, (route e c o).outcome = outcome at hgoes ⊢
  cases hgoes with
  | idle hnone => exact absurd hnone hflows
  | refused _ htake => exact absurd htake (Engine.take_ne_error haccepts)
  | unbuilt _ _ hfault => simp [hm] at hfault
  | unanswered _ hfault => exact absurd hfault (hanswered _ _)
  | unrouted h ha hinfeasible =>
    obtain rfl := Except.ok.inj (hfirst.symm.trans ha)
    refine Route.keepsProtocol_of_not_runsAgain (fun left hagain => ?_) (by simp [hinfeasible])
    simp [hagain.feasible] at hinfeasible
  | unread h ha hfeasible hread =>
    obtain rfl := Except.ok.inj (hfirst.symm.trans ha)
    refine Route.keepsProtocol_of_not_runsAgain (fun left hagain => ?_) ?_
    · obtain ⟨routes, hroutes⟩ := hagain.chains
      simp [h.isAssembled.readRoutes_eq_ok_iff.2 hroutes] at hread
    · rw [if_pos hfeasible]
      exact Or.inl (h.yields hc hread)
  | once h hended =>
    obtain ⟨rfl, rfl⟩ := h.eq_first hm hfirst
    exact h.keepsProtocol hc hended
  | unmeasured h hwanted hfault =>
    obtain ⟨rfl, rfl⟩ := h.eq_first hm hfirst
    rcases hfault with htime | hread
    · exact h.keepsProtocol_of_timeLeft_eq_error htime
    · simp [readOverrun_eq_sum (hcounters _ _ h.answer)] at hread
  | unrefined _ htake => exact absurd htake (Engine.take_ne_error haccepts)
  | unanswered' _ hfault => exact absurd hfault (hanswered _ _)
  | kept h ha hinfeasible =>
    obtain ⟨rfl, rfl⟩ := h.eq_first hm hfirst
    refine h.keepsProtocol hc (hcounters _ _ h.answer) ha ?_
    simpa [hinfeasible] using h.yields hc
  | unread' h ha hfeasible hread =>
    obtain ⟨rfl, rfl⟩ := h.eq_first hm hfirst
    refine h.keepsProtocol hc (hcounters _ _ h.answer) ha ?_
    rw [if_pos hfeasible]
    exact h.toIsPosed.yields hc hread
  | twice h ha hfeasible hread =>
    obtain ⟨rfl, rfl⟩ := h.eq_first hm hfirst
    refine h.keepsProtocol hc (hcounters _ _ h.answer) ha ?_
    rw [if_pos hfeasible]
    exact h.toIsPosed.yields hc hread

lemma Engine.best_isWhole {ν : Type} {ps : List (Posting ν)} {a : Answer ν}
    (h : best.answer ps = .ok a) (v : ν) : (a.value v).IsWhole := by
  obtain rfl := Except.ok.inj h
  split
  · rfl
  · split <;> rfl

namespace Corner

/-- A second search is wanted around the corner, and both have to be done in ten seconds. -/
def hasty : RouteOptions where
  minimizesBandwidth := true
  search := { timeLimit := .int 10 }

/-- The best engine, if it takes four seconds for an answer. -/
noncomputable def thinking : Engine RoutingVar :=
  Engine.best.slowed 4.0

lemma elapsed_thinking {ps : List (Posting RoutingVar)} {a : Answer RoutingVar}
    (h : thinking.answer ps = .ok a) : a.elapsed = 4.0 := by
  obtain ⟨b, -, rfl⟩ := Engine.slowed_answer.1 h
  rfl

lemma thinking_isWhole {ps : List (Posting RoutingVar)} {a : Answer RoutingVar}
    (h : thinking.answer ps = .ok a) (v : RoutingVar) : (a.value v).IsWhole := by
  obtain ⟨b, hb, rfl⟩ := Engine.slowed_answer.1 h
  exact Engine.best_isWhole hb v

/-- Of ten seconds, an answer leaves six. -/
lemma timeLeft_thinking {ps : List (Posting RoutingVar)} {a : Answer RoutingVar}
    (h : thinking.answer ps = .ok a) :
    Route.timeLeft hasty.search.timeLimit a.elapsed = .ok (.number (.float 6.0)) := by
  rw [elapsed_thinking h]
  rfl

end Corner

/-- Around the corner a second search is made, with what the first one leaves of ten seconds. -/
theorem corner_solve_protocol : Corner.context.IsProper ∧ Corner.context.flows ≠ [] ∧
    (∀ p, Corner.thinking.accepts p = .ok ()) ∧ (∀ ps, ∃ a, Corner.thinking.answer ps = .ok a) ∧
    (∀ ps a, Corner.thinking.answer ps = .ok a → ∀ f, (a.value (.overrun f)).IsWhole) ∧
    ∃ m, (build Corner.context Corner.hasty.resolution (.int defaultMaxOverrun)).outcome = .ok m ∧
      (∀ p ∈ Route.built Corner.context Corner.hasty, p.IsBuilding) ∧
      Route.ReadsSolutions Corner.thinking [] (route Corner.thinking Corner.context
        Corner.hasty).steps ∧
      ∃ first, Corner.thinking.answer (Route.firstRequest Corner.context Corner.hasty) =
          .ok first ∧
        Route.RunsAgain Corner.context Corner.hasty first (.number (.float 6.0)) ∧
        Route.KeepsProtocol Corner.thinking Corner.context Corner.hasty m first
          (route Corner.thinking Corner.context Corner.hasty).postings
          (route Corner.thinking Corner.context Corner.hasty).outcome := by
  obtain ⟨m, hm, -⟩ := Corner.exists_model
  have hflows : Corner.context.flows ≠ [] := by decide
  obtain ⟨first, second, routes, better, overrun, left, h, -⟩ :=
    Route.goes_twice (o := Corner.hasty) Corner.isProper rfl hm Corner.isRouting
      Engine.best_isHonest.slowed Engine.best_finds.slowed hflows rfl
      fun a ha => ⟨_, Corner.timeLeft_thinking ha, rfl⟩
  have hwhole : ∀ ps a, Corner.thinking.answer ps = .ok a →
      ∀ f, (a.value (.overrun f)).IsWhole := fun ps a ha f => Corner.thinking_isWhole ha _
  obtain ⟨hbuilding, hreads, first', hfirst, hprotocol⟩ := solve_protocol (o := Corner.hasty)
    Corner.isProper hflows hm (fun _ => rfl) (fun _ => ⟨_, rfl⟩) hwhole
  obtain rfl := Except.ok.inj (hfirst.symm.trans h.answer)
  obtain rfl := Except.ok.inj (h.left_eq.symm.trans (Corner.timeLeft_thinking hfirst))
  exact ⟨Corner.isProper, hflows, fun _ => rfl, fun _ => ⟨_, rfl⟩, hwhole, m, hm, hbuilding,
    hreads, first', hfirst, h.toIsMeasured.runsAgain, hprotocol⟩

end NocRouting
