import NocRouting.Proofs.Model.Outline

/-!
# Building on measures

Two sorts of whole numbers enter a model, the demands of the flows in units and the budgets of the
flows that are in a hurry.  Nothing else in a model comes from figures of a description, so all that
is said of models is said for any measures, however they are worked out.

* `Measures.build` builds a model on given measures, and `build_eq_build_measures` says that
  building is just that, on the measures that doubles give.
* `Measures.counters_eq` says which counters are posted for the flows in a hurry.
-/

namespace NocRouting

open RoutingModel

/-- The whole numbers that the figures of a description come to. -/
structure Measures where
  /-- The demands of the flows, in units. -/
  demands : Except Fault (List Int)
  /-- The number of links that a flow can take within its latency, if that is limited. -/
  budget : Flow → Except Fault (Option Int)

/-- The measures that doubles give. -/
def Context.measures (c : Context) (resolution : Value) : Measures where
  demands := rescale (c.flows.map (·.bandwidth)) c.topology.linkBandwidth resolution
  budget f := do
    if (← f.isConstrained) then
      some <$> hopBudget c.topology.linkLatency c.topology.routerLatency f.maxLatency
    else
      return none

namespace Measures

/-- The budget of a flow, if it has one. -/
def budget? (μ : Measures) (f : Flow) : Option Int :=
  (μ.budget f).toOption.join

/-! ### Counters -/

/-- The overrun counters of the flows with a budget, with their budgets. -/
def counters (μ : Measures) (t : Topology) (maxOverrun : Value) :
    List RoutedFlow → RoutingDraft (List (Nat × Int))
  | [] => return []
  | f :: rest => do
    match ← μ.budget f.flow with
    | some budget =>
      let greatest ← greatestOverrun t maxOverrun budget
      .postAll (overrunCounter t greatest f.flow.id budget)
      return (f.flow.id, budget) :: (← counters μ t maxOverrun rest)
    | none => counters μ t maxOverrun rest

section Counters

variable {μ : Measures} {t : Topology} {flows : List RoutedFlow} {ps : List (Posting RoutingVar)}
  {budgets : List (Nat × Int)}

/-- There is a counter for every flow with a budget. -/
lemma counters_eq {maxOverrun : Value} (h : μ.counters t maxOverrun flows = ⟨ps, .ok budgets⟩) :
    budgets = flows.filterMap (fun f => (μ.budget? f.flow).map (f.flow.id, ·)) ∧
      ps = budgets.flatMap fun b => overrunCounter t (counterBound t maxOverrun b.2) b.1 b.2 := by
  induction flows generalizing ps budgets with
  | nil =>
    simp only [counters, Draft.pure_eq_ok] at h
    obtain ⟨rfl, rfl⟩ := h
    simp
  | cons f flows ih =>
    simp only [counters, Draft.bind_eq_ok, Draft.lift_eq_ok] at h
    obtain ⟨limit, _, ps₁, ⟨rfl, hlimit⟩, h, rfl⟩ := h
    have hf : μ.budget? f.flow = limit := by simp [budget?, hlimit, Except.toOption]
    cases limit with
    | none =>
      obtain ⟨hbudgets, hps⟩ := ih h
      exact ⟨by simp [hf, hbudgets], hps⟩
    | some budget =>
      simp only [Draft.bind_eq_ok, Draft.lift_eq_ok, Draft.postAll_eq_ok, Draft.pure_eq_ok] at h
      obtain ⟨greatest, _, _, ⟨rfl, hgreatest⟩, ⟨-, _, _, rfl, ⟨rest, ps₂, _, hrest, ⟨rfl, rfl⟩,
        rfl⟩, rfl⟩, rfl⟩ := h
      obtain ⟨hbudgets, rfl⟩ := ih hrest
      have hbound : counterBound t maxOverrun budget = greatest := by
        simp [counterBound, hgreatest, Except.toOption]
      exact ⟨by simp [hf, hbudgets], by simp [hbound]⟩

/-- If the bound is a whole number, the domains of the counters are wide enough. -/
lemma counters_eq_ok {maxOverrun : Int}
    (h : μ.counters t (.int maxOverrun) flows = ⟨ps, .ok budgets⟩) :
    budgets = flows.filterMap (fun f => (μ.budget? f.flow).map (f.flow.id, ·)) ∧
      ps = budgets.flatMap fun b =>
        overrunCounter t (.int (max maxOverrun (t.links.length - b.2))) b.1 b.2 := by
  have hbound : ∀ budget, counterBound t (.int maxOverrun) budget =
      .int (max maxOverrun (t.links.length - budget)) := by
    intro budget
    rw [counterBound, greatestOverrun_int]
    rfl
  simpa only [hbound] using counters_eq h

end Counters

/-! ### Building -/

/-- The first part of building a model on measures. -/
def outline (μ : Measures) (c : Context) (resolution maxOverrun : Value) :
    RoutingDraft Outline := do
  let t := c.topology
  let flows ← c.flows.mapM fun f => do
    let (source, sink) ← c.flowRouters f
    return RoutedFlow.mk f source sink
  let demands ← μ.demands
  .postAll (linkVariables t flows)
  let budgets ← μ.counters t maxOverrun flows
  congestionIndicators t flows.length demands resolution
  .postAll (legalTurns (t.illegalTurns c.turnModel) flows)
  .postAll (flows.flatMap (continuity t))
  discard <| Draft.forEach (progress t) flows
  return ⟨flows, demands, budgets⟩

/-- A model built on measures. -/
def build (μ : Measures) (c : Context) (resolution maxOverrun : Value) :
    RoutingDraft RoutingModel :=
  μ.outline c resolution maxOverrun >>= complete c

end Measures

section Context

variable (c : Context) (resolution maxOverrun : Value)

lemma Context.budget?_measures (f : Flow) :
    (c.measures resolution).budget? f = c.topology.budget? f := by
  simp only [Measures.budget?, Context.measures, Topology.budget?]
  cases f.isConstrained with
  | error fault => rfl
  | ok constrained =>
    cases constrained with
    | false => rfl
    | true => cases hopBudget c.topology.linkLatency c.topology.routerLatency f.maxLatency <;> rfl

lemma overrunCounters_eq_counters (flows : List RoutedFlow) :
    overrunCounters c.topology maxOverrun flows =
      (c.measures resolution).counters c.topology maxOverrun flows := by
  induction flows with
  | nil => rfl
  | cons f flows ih =>
    rw [overrunCounters, Measures.counters, ih]
    simp only [Context.measures]
    cases f.flow.isConstrained with
    | error fault => rfl
    | ok constrained =>
      cases constrained with
      | false => rfl
      | true =>
        cases hopBudget c.topology.linkLatency c.topology.routerLatency f.flow.maxLatency <;> rfl

/-- A model is built on the measures that doubles give. -/
theorem build_eq_build_measures :
    build c resolution maxOverrun = (c.measures resolution).build c resolution maxOverrun := by
  rw [build_eq, outline, Measures.build, Measures.outline]
  simp only [overrunCounters_eq_counters c resolution maxOverrun]
  rfl

end Context

end NocRouting
