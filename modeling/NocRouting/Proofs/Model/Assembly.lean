import NocRouting.Proofs.Model.Measures

/-!
# What a model is made of

Building a model fails at the first quantity that cannot be worked out.  If it ends with a model,
nothing failed, and what was posted is the families of constraints for the flows of the context,
one family after the other, then the objective and the hints.

* `IsAssembledOn` lists what is then known of the model and of the postings;
  `isAssembledOn_of_build` says that this is what building on measures achieves.
* `IsAssembled` is the case of the measures that doubles give, which is that of `build`.
* `IsAssembledOn.lastObjective?` says which objective an engine is left with.
-/

namespace NocRouting

open RoutingModel

/-! ### Objectives -/

section Objectives

variable {ν : Type} {ps qs : List (Posting ν)} {e : LinearExpr Int ν}

/-- The posting sets no objective. -/
def Posting.IsAside (p : Posting ν) : Prop :=
  ∀ e, p ≠ .minimize e

lemma lastObjective?_concat {q : Posting ν} (h : q.IsAside) :
    lastObjective? (ps ++ [q]) = lastObjective? ps := by
  rw [lastObjective?, List.foldl_append]
  cases q with
  | minimize e => exact absurd rfl (h e)
  | _ => rfl

/-- An objective stays until another one is set. -/
lemma lastObjective?_append (h : ∀ q ∈ qs, q.IsAside) :
    lastObjective? (ps ++ .minimize e :: qs) = some e := by
  induction qs using List.reverseRecOn with
  | nil =>
    rw [lastObjective?, List.foldl_append]
    rfl
  | append_singleton qs q ih =>
    have hlast : (ps ++ .minimize e :: (qs ++ [q])) = (ps ++ .minimize e :: qs) ++ [q] := by simp
    rw [hlast, lastObjective?_concat (h q (by simp))]
    exact ih fun q hq => h q (by simp [hq])

end Objectives

/-! ### Models -/

/-- What is known of a model that was built on measures, and of what was posted for it. -/
structure IsAssembledOn (μ : Measures) (c : Context) (resolution maxOverrun : Value)
    (ps : List (Posting RoutingVar)) (m : RoutingModel) : Prop where
  /-- The flows come with the routers at their ends. -/
  flows : List.Forall₂ (fun f g => g.flow = f ∧ c.flowRouters f = .ok (g.source, g.sink))
    c.flows m.flows
  /-- The demands are those of the flows, in units. -/
  demands : μ.demands = .ok m.demands
  /-- All links count. -/
  numLinks : m.numLinks = c.topology.links.length
  /-- The progress of every flow can be measured. -/
  progress : ∀ f ∈ m.flows, (progress c.topology f).outcome = .ok ()
  /-- The postings. -/
  postings : ∃ counters indicators,
    μ.counters c.topology maxOverrun m.flows = ⟨counters, .ok m.budgets⟩ ∧
    congestionIndicators c.topology m.flows.length m.demands resolution = ⟨indicators, .ok ()⟩ ∧
    ps = linkVariables c.topology m.flows ++ counters ++ indicators ++
      legalTurns (c.topology.illegalTurns c.turnModel) m.flows ++
      m.flows.flatMap (continuity c.topology) ++
      m.flows.flatMap (fun f => (RoutingModel.progress c.topology f).postings) ++
      .minimize (objective m.flows.length m.demands m.budgets m.numLinks) ::
      m.flows.flatMap fun f => (routeHints c.topology f).postings

/-- What is known of a model that was built for a context. -/
abbrev IsAssembled (c : Context) (resolution maxOverrun : Value) :
    List (Posting RoutingVar) → RoutingModel → Prop :=
  IsAssembledOn (c.measures resolution) c resolution maxOverrun

/-- Looking up the routers at the ends of flows posts nothing. -/
lemma routedFlows_eq_ok {c : Context} {ps : List (Posting RoutingVar)} {flows : List RoutedFlow}
    (h : (c.flows.mapM fun f => do
      let (source, sink) ← c.flowRouters f
      return RoutedFlow.mk f source sink : RoutingDraft (List RoutedFlow)) = ⟨ps, .ok flows⟩) :
    ps = [] ∧ List.Forall₂ (fun f g => g.flow = f ∧ c.flowRouters f = .ok (g.source, g.sink))
      c.flows flows := by
  have hone : ∀ (f : Flow) (qs : List (Posting RoutingVar)) (g : RoutedFlow),
      (do
        let ends ← c.flowRouters f
        return RoutedFlow.mk f ends.1 ends.2 : RoutingDraft RoutedFlow) = ⟨qs, .ok g⟩ →
      qs = [] ∧ g.flow = f ∧ c.flowRouters f = .ok (g.source, g.sink) := by
    intro f qs g hfg
    simp only [Draft.bind_eq_ok, Draft.lift_eq_ok, Draft.pure_eq_ok] at hfg
    obtain ⟨⟨a, b⟩, -, -, ⟨rfl, hab⟩, ⟨rfl, rfl⟩, rfl⟩ := hfg
    exact ⟨rfl, rfl, hab⟩
  obtain ⟨rfl, hflows⟩ := Draft.mapM_eq_ok (fun f qs g hfg => (hone f qs g hfg).1) h
  exact ⟨rfl, hflows.imp fun f g hfg => (hone f [] g hfg).2⟩

theorem isAssembledOn_of_build {μ : Measures} {c : Context} {resolution maxOverrun : Value}
    {ps : List (Posting RoutingVar)} {m : RoutingModel}
    (h : μ.build c resolution maxOverrun = ⟨ps, .ok m⟩) :
    IsAssembledOn μ c resolution maxOverrun ps m := by
  simp only [Measures.build, Measures.outline, complete, Draft.bind_eq_ok, Draft.lift_eq_ok,
    Draft.postAll_eq_ok, Draft.pure_eq_ok, Draft.discard_eq_ok, Draft.post_eq_ok] at h
  obtain ⟨_, _, _, h, ⟨-, _, _, rfl, hcomplete, rfl⟩, rfl⟩ := h
  -- one step of building after the other, with what it posts
  obtain ⟨flows, ends, _, hflows, h, rfl⟩ := h
  obtain ⟨demands, _, _, ⟨rfl, hdemands⟩, h, rfl⟩ := h
  obtain ⟨-, _, _, rfl, h, rfl⟩ := h
  obtain ⟨budgets, counters, _, hcounters, h, rfl⟩ := h
  obtain ⟨⟨⟩, indicators, _, hindicators, h, rfl⟩ := h
  obtain ⟨-, _, _, rfl, h, rfl⟩ := h
  obtain ⟨-, _, _, rfl, h, rfl⟩ := h
  obtain ⟨-, progressed, _, ⟨_, hprogressed⟩, ⟨rfl, rfl⟩, rfl⟩ := h
  obtain ⟨hinted, hints, _, hhints, ⟨rfl, rfl⟩, rfl⟩ := hcomplete
  obtain ⟨rfl, hrouted⟩ := routedFlows_eq_ok hflows
  obtain ⟨rfl, hok⟩ := Draft.forEach_eq_ok hprogressed
  obtain ⟨rfl, -⟩ := Draft.forEach_eq_ok hhints
  refine ⟨hrouted, hdemands, rfl, ?_, counters, indicators, hcounters, hindicators, ?_⟩
  · intro f hf
    obtain ⟨⟨⟩, hu⟩ := hok f hf
    exact hu
  · simp only [List.nil_append, List.append_nil, List.append_assoc, List.cons_append]

theorem isAssembled_of_build {c : Context} {resolution maxOverrun : Value}
    {ps : List (Posting RoutingVar)} {m : RoutingModel}
    (h : build c resolution maxOverrun = ⟨ps, .ok m⟩) :
    IsAssembled c resolution maxOverrun ps m :=
  isAssembledOn_of_build (build_eq_build_measures c resolution maxOverrun ▸ h)

namespace IsAssembledOn

variable {μ : Measures} {c : Context} {resolution maxOverrun : Value}
  {ps : List (Posting RoutingVar)} {m : RoutingModel}
  (h : IsAssembledOn μ c resolution maxOverrun ps m)
include h

lemma flows_eq : m.flows.map (·.flow) = c.flows := by
  have hflows : List.Forall₂ (fun f g => f = g.flow) c.flows m.flows :=
    h.flows.imp fun f g hfg => hfg.1.symm
  rw [← List.forall₂_map_right_iff (R := (· = ·)), List.forall₂_eq_eq_eq] at hflows
  exact hflows.symm

lemma length_flows : m.flows.length = c.flows.length :=
  h.flows.length_eq.symm

/-- The objective that an engine is left with. -/
theorem lastObjective? :
    lastObjective? ps =
      some (objective m.flows.length m.demands m.budgets m.numLinks) := by
  obtain ⟨counters, indicators, -, -, rfl⟩ := h.postings
  refine lastObjective?_append fun p hp e => ?_
  obtain ⟨f, -, hf⟩ := List.mem_flatMap.1 hp
  obtain ⟨l, -, n, rfl⟩ := exists_of_mem_routeHints p hf
  simp

end IsAssembledOn

end NocRouting
