import NocRouting.Proofs.Model.Priorities
import NocRouting.Proofs.Model.Renaming

/-!
# The order of flows

Flows are numbered in the order in which they are added, and their numbers tell apart the variables,
the demands and the budgets of a model.  If they are added in another order, all of these change
places, and they do so together: the model is the same under other numbers.

* `Traffic.IsReordering` says that flows are those of other traffic in another order, and
  `Traffic.isReordering_of_requests` that this comes from requests in another order.
* `perm_flows`, `perm_budgets` and `perm_demands` say what becomes of the parts of a model.
* `satisfies_renumber_iff` and `value_objective_renumber` say what assignments make of the two
  models, and `order_of_flows_irrelevant` puts it all together.
-/

namespace NocRouting

-- Empty sums are the `0` of core, whatever a reader of this module has loaded besides.
attribute [local instance (2000)] Zero.ofOfNat0

open RoutingModel

/-! ### Traffic in another order -/

/-- The flow at every position is the one that stood at another position before, under its new
number. -/
def Traffic.IsReordering (π : Equiv.Perm Nat) (t t' : Traffic) : Prop :=
  ∀ i : Nat, t'[i]? = (t[π i]?).map (·.numbered i)

/-- The flow that a request leads to, under a number. -/
def FlowRequest.flow? (r : FlowRequest) (id : Nat) : Option Flow :=
  r.route.asMembers.toOption.map fun route =>
    ⟨id, r.source, r.sink, r.bandwidth, r.maxLatency, r.name, route⟩

namespace Traffic

/-- Flows are those of the requests for them, one after the other. -/
lemma getElem?_ofRequests {requests : List FlowRequest} {t : Traffic}
    (h : ofRequests requests = .ok t) (i : Nat) : t[i]? = (requests[i]?).bind (·.flow? i) := by
  have hall : t.length = requests.length ∧
      ∀ i : Nat, t[i]? = (requests[i]?).bind (·.flow? i) := by
    refine Except.foldlM_induction (P := fun done (t : Traffic) => t.length = done.length ∧
      ∀ i : Nat, t[i]? = (done[i]?).bind (·.flow? i)) h ⟨rfl, by simp⟩ ?_
    rintro done r t t' ⟨hlength, hitems⟩ hstep
    obtain ⟨⟨_, f⟩, hadd, hstep⟩ := Except.bind_eq_ok.1 hstep
    obtain rfl := Except.pure_eq_ok.1 hstep
    obtain ⟨route, hroute, rfl, rfl⟩ := add_eq_ok hadd
    refine ⟨by simp [hlength], fun i => ?_⟩
    rcases lt_trichotomy i t.length with hi | rfl | hi
    · rw [List.getElem?_append_left hi, List.getElem?_append_left (hlength ▸ hi), hitems]
    · rw [List.getElem?_concat_length, hlength, List.getElem?_concat_length]
      simp [FlowRequest.flow?, hroute, Except.toOption]
    · rw [List.getElem?_eq_none (by simp; omega), List.getElem?_eq_none (by simp; omega)]
      rfl
  exact hall.2 i

/-- Requests in another order lead to the flows in that order. -/
theorem isReordering_of_requests {π : Equiv.Perm Nat} {requests requests' : List FlowRequest}
    {t t' : Traffic} (h : ofRequests requests = .ok t) (h' : ofRequests requests' = .ok t')
    (horder : ∀ i : Nat, requests'[i]? = requests[π i]?) : t.IsReordering π t' := by
  intro i
  rw [getElem?_ofRequests h, getElem?_ofRequests h', horder i]
  cases requests[π i]? with
  | none => rfl
  | some r =>
    simp only [Option.bind_some, FlowRequest.flow?, Option.map_map]
    rfl

end Traffic

/-- Only to a number can a number be added. -/
lemma Value.exists_number?_of_plus {v w : Value} {n : Int} (h : v.plus (.int n) = .ok w) :
    ∃ k, v.number? = some k := by
  have hplus : v.plus (.int n) = combined (· + ·) v (.int n) := by
    cases v <;> rfl
  cases hv : v.number? with
  | some k => exact ⟨k, rfl⟩
  | none =>
    have hnumber : v.asNumber = .error .mismatch := by
      rw [asNumber, hv]
    rw [hplus, combined, hnumber] at h
    cases h

/-- Each demand is measured on its own, if the capacity of links and the resolution are numbers. -/
lemma exists_units {capacity resolution : Value} {c r : Number}
    (hc : capacity.number? = some c) (hr : resolution.number? = some r) :
    ∃ units : Value → Option Int, ∀ ds ns, rescale ds capacity resolution = .ok ns →
      List.Forall₂ (fun d n => units d = some n) ds ns := by
  refine ⟨fun d => (do
    let x ← d.asFloat
    let c ← c.asFloat
    let r ← r.asFloat
    (Number.float (x / c * r)).floor : Except Fault Int).toOption, fun ds ns h => ?_⟩
  unfold rescale at h
  split at h
  · next hempty =>
    obtain rfl := Except.pure_eq_ok.1 h
    rw [List.isEmpty_iff.1 hempty]
    exact .nil
  · next hnonempty =>
    clear hnonempty
    simp only [Except.bind_eq_ok, hc, hr] at h
    obtain ⟨xs, hxs, x, hx, y, hy, h⟩ := h
    have hfloats := Except.mapM_eq_ok.1 hxs
    have hfloors := Except.mapM_eq_ok.1 h
    clear hxs h
    induction hfloats generalizing ns with
    | nil =>
      cases hfloors
      exact .nil
    | cons hd _ ih =>
      obtain _ | ⟨hn, hrest⟩ := hfloors
      refine .cons ?_ (ih _ hrest)
      simp only [hd, hx, hy, hn, Except.ok_bind]
      rfl

/-- Demands of flows in another order are in that order too. -/
lemma rescale_reordered {π : Equiv.Perm Nat} {t t' : Traffic} (h : t.IsReordering π t')
    {capacity resolution : Value} {c r : Number} (hc : capacity.number? = some c)
    (hr : resolution.number? = some r) {ns ns' : List Int}
    (hns : rescale (t.map (·.bandwidth)) capacity resolution = .ok ns)
    (hns' : rescale (t'.map (·.bandwidth)) capacity resolution = .ok ns') :
    ns.length = t.length ∧ ∀ i : Nat, ns'[i]? = ns[π i]? := by
  obtain ⟨units, hunits⟩ := exists_units hc hr
  have hitems : ∀ ds ns, rescale ds capacity resolution = .ok ns →
      ∀ i : Nat, ns[i]? = (ds[i]?).bind units := by
    intro ds ns hns i
    have heach := hunits ds ns hns
    cases hi : ds[i]? with
    | none =>
      rw [List.getElem?_eq_none_iff, heach.length_eq] at hi
      exact List.getElem?_eq_none_iff.2 hi
    | some d =>
      obtain ⟨n, hn, hdn⟩ := exists_getElem?_of_forall₂ heach hi
      rw [hn, Option.bind_some, hdn]
  refine ⟨?_, fun i => ?_⟩
  · rw [← (hunits _ _ hns).length_eq, List.length_map]
  · rw [hitems _ _ hns, hitems _ _ hns', List.getElem?_map, List.getElem?_map, h i]
    cases t[π i]? <;> rfl

/-! ### Assignments for flows under other numbers -/

lemma RoutingVar.renumber_renumber (π : Equiv.Perm Nat) (v : RoutingVar) :
    (v.renumber π.symm).renumber π = v := by
  cases v <;> simp [renumber]

/-- Numbering flows in another way is undone by numbering them back. -/
lemma comp_renumber_symm (π : Equiv.Perm Nat) (σ : RoutingVar → Int) :
    (σ ∘ RoutingVar.renumber π) ∘ RoutingVar.renumber π.symm = σ :=
  funext fun v => congrArg σ (v.renumber_renumber π)

/-- Every assignment arises from one for the other numbers. -/
lemma exists_comp_renumber (π : Equiv.Perm Nat) (τ : RoutingVar → Int) :
    ∃ σ : RoutingVar → Int, σ ∘ .renumber π = τ :=
  ⟨τ ∘ .renumber π.symm, comp_renumber_symm π.symm τ⟩

/-! ### Sums over flows -/

section Sums

variable {σ : RoutingVar → Int}

lemma value_routedOver_eq (numFlows : Nat) (demands : List Int) (link : Nat) :
    (routedOver numFlows demands link).value σ =
      ((demands.take numFlows).zipIdx.map fun (d, f) => d * σ (.link f link)).sum := by
  rw [routedOver, value_weightedSum, zipIdx_take, ← List.range_eq_range', List.zip_map_right,
    List.map_map]
  rfl

lemma value_aggregateBandwidth_eq (numFlows : Nat) (demands : List Int) (numLinks : Nat) :
    (aggregateBandwidth numFlows demands numLinks).value σ =
      ((demands.take numFlows).zipIdx.map fun (d, f) =>
        ((List.range numLinks).map fun l => d * σ (.link f l)).sum).sum := by
  rw [aggregateBandwidth, LinearExpr.value, sum_map_flatMap, Int.add_zero]
  simp only [List.map_map]
  rfl

end Sums

/-! ### What a model demands of flow after flow -/

namespace IsAssembled

variable {c : Context} {resolution maxOverrun : Value} {ps : List (Posting RoutingVar)}
  {m : RoutingModel} (h : IsAssembled c resolution maxOverrun ps m)
include h

/-- The flows of a model come with the routers at their ends. -/
lemma getElem?_flows (i : Nat) : m.flows[i]? = (c.flows[i]?).bind fun f =>
    (c.flowRouters f).toOption.map fun ends => ⟨f, ends.1, ends.2⟩ := by
  cases hi : c.flows[i]? with
  | none =>
    rw [List.getElem?_eq_none_iff, h.flows.length_eq] at hi
    exact List.getElem?_eq_none_iff.2 hi
  | some f =>
    obtain ⟨g, hg, rfl, hends⟩ := exists_getElem?_of_forall₂ h.flows hi
    rw [hg, Option.bind_some, hends]
    rfl

lemma budgets_eq_filterMap : m.budgets =
    m.flows.filterMap fun g => (c.topology.budget? g.flow).map (g.flow.id, ·) := by
  rw [h.budgets_eq, ← h.flows_eq, List.filterMap_map]
  rfl

/-- Every link has its indicator. -/
lemma exists_indicator {l : Link} (hl : l ∈ c.topology.links) :
    ∃ u, congestionIndicator m.flows.length m.demands resolution l =
      ⟨(congestionIndicator m.flows.length m.demands resolution l).postings, .ok u⟩ := by
  obtain ⟨-, indicators, -, hindicators, -⟩ := h.postings
  exact (congestionIndicators_eq hindicators).2 l hl

/-- What an assignment has to meet, flow by flow, budget by budget and link by link. -/
lemma satisfies_iff_own {σ : RoutingVar → Int} : Satisfies σ ps ↔
    (∀ g ∈ m.flows, Satisfies σ (ownPostings c g)) ∧
    (∀ b ∈ m.budgets, Satisfies σ (overrunCounter c.topology
      (counterBound c.topology maxOverrun b.2) b.1 b.2)) ∧
    ∀ l ∈ c.topology.links,
      Satisfies σ (congestionIndicator m.flows.length m.demands resolution l).postings := by
  obtain ⟨counters, indicators, hcounters, hindicators, rfl⟩ := h.postings
  obtain ⟨-, rfl⟩ := Measures.counters_eq hcounters
  obtain ⟨rfl, -⟩ := congestionIndicators_eq hindicators
  simp only [satisfies_append, satisfies_cons, satisfies_flatMap, linkVariables, legalTurns,
    ownPostings, List.flatMap_singleton]
  constructor
  · rintro ⟨⟨⟨⟨⟨⟨hlinks, hcounters⟩, hindicators⟩, hturns⟩, hcont⟩, hprog⟩, -⟩
    exact ⟨fun g hg => ⟨⟨⟨hlinks g hg, hturns g hg⟩, hcont g hg⟩, hprog g hg⟩, hcounters,
      hindicators⟩
  · rintro ⟨hflows, hcounters, hindicators⟩
    exact ⟨⟨⟨⟨⟨⟨fun g hg => (hflows g hg).1.1.1, hcounters⟩, hindicators⟩,
      fun g hg => (hflows g hg).1.1.2⟩, fun g hg => (hflows g hg).1.2⟩,
      fun g hg => (hflows g hg).2⟩, rfl, fun g _ => satisfies_routeHints⟩

end IsAssembled

/-! ### Two models -/

section Pair

variable {c : Context} {flows : Traffic} {π : Equiv.Perm Nat} {resolution maxOverrun : Value}
  {ps ps' : List (Posting RoutingVar)} {m m' : RoutingModel} (hc : c.flows.Reachable)
  (hflows : c.flows.IsReordering π flows) (h : IsAssembled c resolution maxOverrun ps m)
  (h' : IsAssembled { c with flows := flows } resolution maxOverrun ps' m')

include hc hflows h h'

/-- The flows of the models are the same under other numbers. -/
lemma perm_flows : m'.flows.Perm (m.flows.map (.renumber π.symm)) := by
  have hitems : ∀ i : Nat, m'.flows[i]? =
      (m.flows[π i]?).map fun g => { g with flow := g.flow.numbered i } := by
    intro i
    rw [h.getElem?_flows, h'.getElem?_flows, hflows i]
    cases c.flows[π i]? with
    | none => rfl
    | some f =>
      have hends : ({ c with flows := flows } : Context).flowRouters (f.numbered i) =
        c.flowRouters f := rfl
      simp only [Option.map_some, Option.bind_some, hends]
      cases c.flowRouters f <;> rfl
  refine (perm_of_reordered hitems).trans (.of_eq (List.ext_getElem? fun j => ?_))
  rw [List.getElem?_map, List.getElem?_map, List.getElem?_zipIdx]
  cases hj : m.flows[j]? with
  | none => rfl
  | some g =>
    obtain ⟨f, hf, rfl, -⟩ := exists_getElem?_of_forall₂ h.flows.flip hj
    simp only [Option.map_some, RoutedFlow.renumber, hc.id_of_getElem? hf, Nat.zero_add]

/-- So are their budgets. -/
lemma perm_budgets : m'.budgets.Perm (m.budgets.map fun b => (π.symm b.1, b.2)) := by
  have hbudget : ∀ g : RoutedFlow,
      (c.topology.budget? (g.renumber π.symm).flow).map ((g.renumber π.symm).flow.id, ·) =
        ((c.topology.budget? g.flow).map (g.flow.id, ·)).map fun b => (π.symm b.1, b.2) := by
    intro g
    rw [Option.map_map]
    rfl
  rw [h.budgets_eq_filterMap, h'.budgets_eq_filterMap, List.map_filterMap]
  refine ((perm_flows hc hflows h h').filterMap _).trans (.of_eq ?_)
  rw [List.filterMap_map]
  exact List.filterMap_congr fun g _ => hbudget g

lemma length_flows_eq : m'.flows.length = m.flows.length := by
  rw [(perm_flows hc hflows h h').length_eq, List.length_map]

omit hc in
/-- So are their demands, which only matter if there are links. -/
lemma perm_demands (hcapacity : ∃ n, c.topology.linkBandwidth.number? = some n)
    {l : Link} (hl : l ∈ c.topology.links) :
    m.demands.length = m.flows.length ∧
      m'.demands.zipIdx.Perm (m.demands.zipIdx.map fun (d, j) => (d, π.symm j)) := by
  obtain ⟨n, hn⟩ := hcapacity
  -- the resolution is a number, since there is a least load beyond it
  obtain ⟨r, hr⟩ : ∃ r, resolution.number? = some r := by
    obtain ⟨u, hu⟩ := h.exists_indicator hl
    obtain ⟨-, beyond, hbeyond, -⟩ := congestionIndicator_eq hu
    exact Value.exists_number?_of_plus hbeyond
  obtain ⟨hlength, hitems⟩ := rescale_reordered hflows hn hr h.demands h'.demands
  refine ⟨hlength.trans h.length_flows.symm, perm_of_reordered (f := fun i d => (d, i)) fun i => ?_⟩
  rw [List.getElem?_zipIdx, hitems i]
  simp

/-! ### What assignments make of the models -/

/-- Sums over all flows are the same for both models. -/
lemma sum_demands_eq (hcapacity : ∃ n, c.topology.linkBandwidth.number? = some n)
    {l : Link} (hl : l ∈ c.topology.links) {F F' : Int × Nat → Int}
    (hF : ∀ d j, F' (d, π.symm j) = F (d, j)) :
    ((m'.demands.take m'.flows.length).zipIdx.map F').sum =
      ((m.demands.take m.flows.length).zipIdx.map F).sum := by
  obtain ⟨hlength, hperm⟩ := perm_demands hflows h h' hcapacity hl
  have hlength' : m'.demands.length = m'.flows.length := by
    have hzip := hperm.length_eq
    rw [List.length_zipIdx, List.length_map, List.length_zipIdx] at hzip
    rw [hzip, hlength, length_flows_eq hc hflows h h']
  rw [← hlength, ← hlength', List.take_length, List.take_length, (hperm.map F').sum_eq,
    List.map_map]
  refine congrArg List.sum (List.map_congr_left ?_)
  rintro ⟨d, j⟩ -
  exact hF d j

variable {σ : RoutingVar → Int}

lemma value_routedOver_renumber (hcapacity : ∃ n, c.topology.linkBandwidth.number? = some n)
    {l : Link} (hl : l ∈ c.topology.links) :
    (routedOver m'.flows.length m'.demands l.index).value (σ ∘ .renumber π) =
      (routedOver m.flows.length m.demands l.index).value σ := by
  rw [value_routedOver_eq, value_routedOver_eq]
  refine sum_demands_eq hc hflows h h' hcapacity hl fun d j => ?_
  show d * σ (.link (π (π.symm j)) l.index) = _
  rw [π.apply_symm_apply]

/-- Assignments meet one model as they meet the other under the other numbers. -/
lemma satisfies_renumber_iff (hcapacity : ∃ n, c.topology.linkBandwidth.number? = some n) :
    Satisfies (σ ∘ .renumber π) ps' ↔ Satisfies σ ps := by
  rw [h.satisfies_iff_own, h'.satisfies_iff_own]
  refine and_congr ?_ (and_congr ?_ (forall₂_congr fun l hl => ?_))
  · have hown : ∀ g : RoutedFlow,
        Satisfies (σ ∘ .renumber π) (ownPostings c (g.renumber π.symm)) ↔
          Satisfies σ (ownPostings c g) := by
      intro g
      rw [ownPostings_renumber, satisfies_map_rename, comp_renumber_symm]
    simp only [(perm_flows hc hflows h h').mem_iff, List.forall_mem_map]
    exact forall₂_congr fun g _ => hown g
  · have hcounter : ∀ b : Nat × Int,
        Satisfies (σ ∘ .renumber π) (overrunCounter c.topology
          (counterBound c.topology maxOverrun b.2) (π.symm b.1) b.2) ↔
        Satisfies σ (overrunCounter c.topology
          (counterBound c.topology maxOverrun b.2) b.1 b.2) := by
      intro b
      rw [overrunCounter_renumber, satisfies_map_rename, comp_renumber_symm]
    simp only [(perm_budgets hc hflows h h').mem_iff, List.forall_mem_map]
    exact forall₂_congr fun b _ => hcounter b
  · obtain ⟨u, hu⟩ := h.exists_indicator hl
    obtain ⟨u', hu'⟩ := h'.exists_indicator hl
    obtain ⟨-, beyond, hbeyond, hps⟩ := congestionIndicator_eq hu
    obtain ⟨-, beyond', hbeyond', hps'⟩ := congestionIndicator_eq hu'
    obtain rfl := Except.ok.inj (hbeyond.symm.trans hbeyond')
    have hload := value_routedOver_renumber hc hflows h h' hcapacity hl (σ := σ)
    rw [hps, hps']
    simp only [satisfies_cons, satisfies_nil, Posting.admits, Constraint.holds, hload]
    rfl

/-- The terms of the objective come to the same. -/
lemma value_terms_renumber (hcapacity : ∃ n, c.topology.linkBandwidth.number? = some n) :
    (totalOverrun m'.budgets).value (σ ∘ .renumber π) = (totalOverrun m.budgets).value σ ∧
      (totalCongested m'.numLinks).value (σ ∘ .renumber π) =
        (totalCongested m.numLinks).value σ ∧
      (aggregateBandwidth m'.flows.length m'.demands m'.numLinks).value (σ ∘ .renumber π) =
        (aggregateBandwidth m.flows.length m.demands m.numLinks).value σ := by
  have hlinks : m'.numLinks = m.numLinks := h'.numLinks.trans h.numLinks.symm
  refine ⟨?_, ?_, ?_⟩
  · rw [totalOverrun, totalOverrun, value_sumOf, value_sumOf, List.map_map, List.map_map,
      ((perm_budgets hc hflows h h').map _).sum_eq, List.map_map]
    refine congrArg List.sum (List.map_congr_left fun b _ => ?_)
    show σ (.overrun (π (π.symm b.1))) = _
    rw [π.apply_symm_apply]
    rfl
  · rw [hlinks, totalCongested, value_sumOf, value_sumOf, List.map_map, List.map_map]
    rfl
  · rw [hlinks, value_aggregateBandwidth_eq, value_aggregateBandwidth_eq]
    cases hlist : c.topology.links with
    | nil =>
      have hzero : m.numLinks = 0 := by rw [h.numLinks, hlist, List.length_nil]
      simp [hzero]
    | cons l links =>
      have hl : l ∈ c.topology.links := by simp [hlist]
      refine sum_demands_eq hc hflows h h' hcapacity hl fun d j => ?_
      refine congrArg List.sum (List.map_congr_left fun k _ => ?_)
      show d * σ (.link (π (π.symm j)) k) = _
      rw [π.apply_symm_apply]

/-- So the objectives come to the same. -/
lemma value_objective_renumber (hcapacity : ∃ n, c.topology.linkBandwidth.number? = some n) :
    (objective m'.flows.length m'.demands m'.budgets m'.numLinks).value (σ ∘ .renumber π) =
      (objective m.flows.length m.demands m.budgets m.numLinks).value σ := by
  have hlinks : m'.numLinks = m.numLinks := h'.numLinks.trans h.numLinks.symm
  have hweights : objectiveWeights m'.demands m.numLinks =
      objectiveWeights m.demands m.numLinks := by
    cases hlist : c.topology.links with
    | nil =>
      have hzero : m.numLinks = 0 := by rw [h.numLinks, hlist, List.length_nil]
      simp [objectiveWeights, hzero]
    | cons l links =>
      have hl : l ∈ c.topology.links := by simp [hlist]
      have hperm := (perm_demands hflows h h' hcapacity hl).2.map Prod.fst
      have hfirst : m.demands.zipIdx.map (Prod.fst ∘ fun (d, j) => (d, π.symm j)) = m.demands :=
        List.zipIdx_map_fst 0 m.demands
      rw [List.zipIdx_map_fst, List.map_map, hfirst] at hperm
      rw [objectiveWeights, objectiveWeights, hperm.sum_eq]
  obtain ⟨hover, hcong, hagg⟩ := value_terms_renumber hc hflows h h' hcapacity (σ := σ)
  rw [hlinks] at hcong hagg ⊢
  simp only [objective, LinearExpr.value_add, LinearExpr.value_scale, hover, hcong, hagg, hweights]

/-- An assignment makes the objective least exactly if it does under the other numbers. -/
lemma isLeast_renumber_iff (hcapacity : ∃ n, c.topology.linkBandwidth.number? = some n) :
    IsLeast (σ ∘ .renumber π) ps' ↔ IsLeast σ ps := by
  constructor
  · intro hleast e he τ hτ
    obtain rfl := Option.some.inj (h.lastObjective?.symm.trans he)
    have hle := hleast _ h'.lastObjective? _
      ((satisfies_renumber_iff hc hflows h h' hcapacity).2 hτ)
    rwa [value_objective_renumber hc hflows h h' hcapacity,
      value_objective_renumber hc hflows h h' hcapacity] at hle
  · intro hleast e he τ' hτ'
    obtain rfl := Option.some.inj (h'.lastObjective?.symm.trans he)
    obtain ⟨τ, rfl⟩ := exists_comp_renumber π τ'
    rw [value_objective_renumber hc hflows h h' hcapacity,
      value_objective_renumber hc hflows h h' hcapacity]
    exact hleast _ h.lastObjective? τ ((satisfies_renumber_iff hc hflows h h' hcapacity).1 hτ')

omit h h' in
/-- Flows take the paths of a routing exactly if they do under the other numbers. -/
lemma follows_renumber_iff {paths paths' : List (List Link)}
    (hpaths : ∀ i : Nat, paths'[i]? = paths[π i]?) :
    Context.Follows { c with flows := flows } (σ ∘ .renumber π) paths' ↔ c.Follows σ paths := by
  rw [Context.Follows, Context.Follows, forall₂_iff_getElem?, forall₂_iff_getElem?]
  refine (forall_congr' fun i => ?_).trans π.forall_congr_right
  rw [hpaths i, hflows i]
  cases hf : c.flows[π i]? with
  | none => cases paths[π i]? <;> simp
  | some f =>
    cases paths[π i]? with
    | none => simp
    | some path =>
      rw [Option.map_some, Option.rel_some_some, Option.rel_some_some, hc.id_of_getElem? hf]
      rfl

end Pair

/-- If flows are added in another order and both models can be built, numbering flows in the other
way turns the assignments that meet one model into those that meet the other, one to one.  The
overrun, the number of congested links, the bandwidth and the objective stay the same, so there are
solutions of both models or of neither, and the flows take the same paths in the best of them. -/
theorem order_of_flows_irrelevant {c : Context} {flows : Traffic} {π : Equiv.Perm Nat}
    {resolution maxOverrun : Value} {m m' : RoutingModel} (hc : c.flows.Reachable)
    (hflows : c.flows.IsReordering π flows)
    (hcapacity : ∃ n, c.topology.linkBandwidth.number? = some n)
    (hm : (build c resolution maxOverrun).outcome = .ok m)
    (hm' : (build { c with flows := flows } resolution maxOverrun).outcome = .ok m') :
    let ps := (build c resolution maxOverrun).postings
    let ps' := (build { c with flows := flows } resolution maxOverrun).postings
    let renumbered := fun σ : RoutingVar → Int => σ ∘ .renumber π
    Set.BijOn renumbered {σ | Satisfies σ ps} {σ | Satisfies σ ps'} ∧
    (∀ σ, (totalOverrun m'.budgets).value (renumbered σ) = (totalOverrun m.budgets).value σ ∧
      (totalCongested m'.numLinks).value (renumbered σ) = (totalCongested m.numLinks).value σ ∧
      (aggregateBandwidth m'.flows.length m'.demands m'.numLinks).value (renumbered σ) =
        (aggregateBandwidth m.flows.length m.demands m.numLinks).value σ) ∧
    (∃ e e', lastObjective? ps = some e ∧ lastObjective? ps' = some e' ∧
      ∀ σ, e'.value (renumbered σ) = e.value σ) ∧
    ((∃ σ, Satisfies σ ps) ↔ ∃ σ, Satisfies σ ps') ∧
    ∀ paths paths' : List (List Link), (∀ i : Nat, paths'[i]? = paths[π i]?) →
      ((∃ σ, Satisfies σ ps ∧ IsLeast σ ps ∧ c.Follows σ paths) ↔
        ∃ σ, Satisfies σ ps' ∧ IsLeast σ ps' ∧
          Context.Follows { c with flows := flows } σ paths') := by
  intro ps ps' renumbered
  have h : IsAssembled c resolution maxOverrun ps m := isAssembled_of_build (by rw [← hm])
  have h' : IsAssembled { c with flows := flows } resolution maxOverrun ps' m' :=
    isAssembled_of_build (by rw [← hm'])
  have hsatisfies : ∀ σ, Satisfies (renumbered σ) ps' ↔ Satisfies σ ps :=
    fun σ => satisfies_renumber_iff hc hflows h h' hcapacity
  have hsurjective : ∀ τ, ∃ σ, renumbered σ = τ := exists_comp_renumber π
  refine ⟨⟨fun σ hσ => (hsatisfies σ).2 hσ, fun σ _ τ _ heq => ?_, fun τ hτ => ?_⟩,
    fun σ => value_terms_renumber hc hflows h h' hcapacity,
    ⟨_, _, h.lastObjective?, h'.lastObjective?,
      fun σ => value_objective_renumber hc hflows h h' hcapacity⟩, ⟨?_, ?_⟩, ?_⟩
  · rw [← comp_renumber_symm π σ, ← comp_renumber_symm π τ]
    exact congrArg (· ∘ RoutingVar.renumber π.symm) heq
  · obtain ⟨σ, rfl⟩ := hsurjective τ
    exact ⟨σ, (hsatisfies σ).1 hτ, rfl⟩
  · rintro ⟨σ, hσ⟩
    exact ⟨renumbered σ, (hsatisfies σ).2 hσ⟩
  · rintro ⟨τ, hτ⟩
    obtain ⟨σ, rfl⟩ := hsurjective τ
    exact ⟨σ, (hsatisfies σ).1 hτ⟩
  · intro paths paths' hpaths
    have hboth : ∀ σ, Satisfies (renumbered σ) ps' ∧ IsLeast (renumbered σ) ps' ∧
        Context.Follows { c with flows := flows } (renumbered σ) paths' ↔
          Satisfies σ ps ∧ IsLeast σ ps ∧ c.Follows σ paths := fun σ =>
      and_congr (hsatisfies σ) (and_congr (isLeast_renumber_iff hc hflows h h' hcapacity)
        (follows_renumber_iff hc hflows hpaths))
    constructor
    · rintro ⟨σ, hσ⟩
      exact ⟨renumbered σ, (hboth σ).2 hσ⟩
    · rintro ⟨τ, hτ⟩
      obtain ⟨σ, rfl⟩ := hsurjective τ
      exact ⟨σ, (hboth σ).1 hτ⟩

/-- The requests for the flows around a corner. -/
def Corner.requests : List FlowRequest :=
  [⟨.text "p", .text "q", .int 40, .int 2, .null, .list []⟩,
    ⟨.text "q", .text "q", .int 30, .null, .null, .list []⟩,
    ⟨.text "p", .text "q", .int 40, .int 4, .null, .list []⟩]

/-- The flows around a corner, of which the first is added last. -/
def Corner.rotated : Traffic :=
  [⟨0, .text "q", .text "q", .int 30, .null, .null, []⟩,
    ⟨1, .text "p", .text "q", .int 40, .int 4, .null, []⟩,
    ⟨2, .text "p", .text "q", .int 40, .int 2, .null, []⟩]

/-- Where the flows around a corner stood before. -/
def Corner.rotation : Equiv.Perm Nat :=
  (Equiv.swap 1 2).trans (Equiv.swap 0 1)

lemma Corner.rotation_add_three (i : Nat) : rotation (i + 3) = i + 3 := by
  obtain ⟨hzero, hone, htwo⟩ : i + 3 ≠ 0 ∧ i + 3 ≠ 1 ∧ i + 3 ≠ 2 := by omega
  rw [rotation, Equiv.trans_apply, Equiv.swap_apply_of_ne_of_ne hone htwo,
    Equiv.swap_apply_of_ne_of_ne hzero hone]

/-- Around the corner, the flows take the same paths whichever is added first. -/
theorem corner_order_of_flows_irrelevant : Corner.traffic.Reachable ∧
    Corner.traffic.IsReordering Corner.rotation Corner.rotated ∧
    (∃ n, Corner.topology.linkBandwidth.number? = some n) ∧
    let c := Corner.context
    let c' : Context := { c with flows := Corner.rotated }
    ∃ m m', (build c (.int 128) (.int 20)).outcome = .ok m ∧
      (build c' (.int 128) (.int 20)).outcome = .ok m' ∧
      m.demands = [80, 60, 80] ∧ m'.demands = [60, 80, 80] ∧
      (∃ σ, Satisfies σ (build c' (.int 128) (.int 20)).postings) ∧
      ((∃ σ, Satisfies σ (build c (.int 128) (.int 20)).postings ∧
          IsLeast σ (build c (.int 128) (.int 20)).postings ∧ c.Follows σ Corner.paths) ↔
        ∃ σ, Satisfies σ (build c' (.int 128) (.int 20)).postings ∧
          IsLeast σ (build c' (.int 128) (.int 20)).postings ∧
          c'.Follows σ (Corner.paths.rotate 1)) := by
  have horder : Corner.traffic.IsReordering Corner.rotation Corner.rotated := by
    refine Traffic.isReordering_of_requests (h := (rfl : Traffic.ofRequests Corner.requests = _))
      (rfl : Traffic.ofRequests (Corner.requests.rotate 1) = _) ?_
    rintro (_ | _ | _ | i)
    · rfl
    · rfl
    · rfl
    · rw [Corner.rotation_add_three]
      rfl
  have hcapacity : ∃ n, Corner.topology.linkBandwidth.number? = some n := ⟨.int 64, rfl⟩
  obtain ⟨m, hm, hdemands⟩ := Corner.exists_model
  obtain ⟨m', hm', hdemands'⟩ : ∃ m', (build { Corner.context with flows := Corner.rotated }
      (.int 128) (.int 20)).outcome = .ok m' ∧ m'.demands = [60, 80, 80] :=
    Except.exists_of_toOption_map (by decide)
  have hsatisfied : ∃ σ, Satisfies σ (build Corner.context (.int 128) (.int 20)).postings := by
    have h : IsAssembled Corner.context (.int 128) (.int 20) _ m :=
      isAssembled_of_build (by rw [← hm])
    exact ⟨_, h.satisfies_assignment Corner.isProper Corner.isRouting fun b _ =>
      Int.le_trans (by decide) (le_max_left _ _)⟩
  obtain ⟨-, -, -, hfeasible, hbest⟩ :=
    order_of_flows_irrelevant Corner.isProper.flows horder hcapacity hm hm'
  refine ⟨Corner.isProper.flows, horder, hcapacity, m, m', hm, hm', hdemands, hdemands',
    hfeasible.1 hsatisfied, hbest Corner.paths (Corner.paths.rotate 1) ?_⟩
  rintro (_ | _ | _ | i)
  · rfl
  · rfl
  · rfl
  · rw [Corner.rotation_add_three]
    rfl

end NocRouting
