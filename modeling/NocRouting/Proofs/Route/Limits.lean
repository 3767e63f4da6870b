import NocRouting.Proofs.Model.Priorities
import NocRouting.Proofs.Route.Reading
import NocRouting.Proofs.Route.Runs

/-!
# The limits of the second search

The second search is held to the overrun and to the number of congested links that the first one
achieved.  The first solution meets these limits itself.

* `satisfies_refinement` says what the limits demand of an assignment.
* `IsAssembled.satisfies_refinement_self` says that the first solution meets them.
* `IsAssembled.costs_le_of_satisfies_refinement` says what they mean for a routing.
-/

namespace NocRouting

-- Empty sums are the `0` of core, whatever a reader of this module has loaded besides.
attribute [local instance (2000)] Zero.ofOfNat0

open RoutingModel

/-! ### What is posted -/

section Posted

variable {ν : Type} {σ : ν → Int} {ps : List (Posting ν)}

lemma lastObjective?_append_solve {q : SearchParameters} :
    lastObjective? (ps ++ [.solve q]) = lastObjective? ps :=
  lastObjective?_concat (by simp [Posting.IsAside])

lemma satisfies_append_solve {q : SearchParameters} :
    Satisfies σ (ps ++ [.solve q]) ↔ Satisfies σ ps := by
  rw [satisfies_append]
  simp [Posting.admits]

/-- A request to solve changes nothing. -/
lemma isLeast_append_solve {q : SearchParameters} :
    IsLeast σ (ps ++ [.solve q]) ↔ IsLeast σ ps := by
  simp only [IsLeast, lastObjective?_append_solve, satisfies_append_solve]

end Posted

/-! ### Limits -/

/-- The refinement limits the overrun and the number of congested links, and nothing else. -/
lemma satisfies_refinement {m : RoutingModel} {τ : RoutingVar → Int} {a : Answer RoutingVar}
    {overrun : Int} : Satisfies τ (Route.refinement m a (.int overrun)) ↔
      (totalOverrun m.budgets).value τ ≤ overrun ∧
        (totalCongested m.numLinks).value τ ≤ Route.congestedOf m a := by
  simp only [Route.refinement_eq, satisfies_append, satisfies_cons, satisfies_nil, satisfies_map]
  simp [Posting.admits, Constraint.holds, isBetween]

section Limits

variable {c : Context} {m : RoutingModel} {ps : List (Posting RoutingVar)} {r k : Int}
  {σ τ : RoutingVar → Int} {first : Answer RoutingVar} {paths others : List (List Link)}
  {overrun : Value} (hc : c.IsProper) (h : IsAssembled c (.int r) (.int k) ps m)
  (hσ : Satisfies σ ps) (ha : ∀ v, first.value v = .int (σ v))
  (hover : (Route.readOverrun first (.int 0) m.budgets).outcome = .ok overrun)
include hc h hσ ha hover

/-- The limits of the refinement are the overrun and the congestion of the first solution. -/
lemma IsAssembled.satisfies_limits : Satisfies τ (Route.refinement m first overrun) ↔
    (totalOverrun m.budgets).value τ ≤ (totalOverrun m.budgets).value σ ∧
      (totalCongested m.numLinks).value τ ≤ (totalCongested m.numLinks).value σ := by
  rw [readOverrun_eq ha, Int.zero_add] at hover
  obtain rfl := Except.ok.inj hover
  rw [satisfies_refinement, congestedOf_eq ha]
  intro l hl
  have hindex : l ∈ c.topology.links.map (·.index) := by
    rw [hc.topology.isSound.link_index, List.mem_range, ← h.numLinks]
    exact hl
  obtain ⟨k, hk, rfl⟩ := List.mem_map.1 hindex
  have hcongested := (h.satisfies_iff.1 hσ).2.2 k hk
  split at hcongested
  · exact Or.inr hcongested
  · exact Or.inl hcongested

/-- The first solution meets the refinement. -/
theorem IsAssembled.satisfies_refinement_self :
    Satisfies σ (Route.refinement m first overrun) :=
  (h.satisfies_limits hc hσ ha hover).2 ⟨le_rfl, le_rfl⟩

/-- A routing that meets the refinement has no more overrun and no more congested links. -/
theorem IsAssembled.costs_le_of_satisfies_refinement (hr : c.IsRouting paths)
    (hf : c.Follows σ paths) (hτ : Satisfies τ ps) (hr' : c.IsRouting others)
    (hf' : c.Follows τ others) (hlimits : Satisfies τ (Route.refinement m first overrun)) :
    c.overrun others ≤ c.overrun paths ∧
      c.congested m.demands r others ≤ c.congested m.demands r paths := by
  obtain ⟨hoverrun, hcongested⟩ := (h.satisfies_limits hc hσ ha hover).1 hlimits
  obtain ⟨ho, hk, -⟩ := h.value_terms hc hσ hr hf
  obtain ⟨ho', hk', -⟩ := h.value_terms hc hτ hr' hf'
  rw [ho, ho'] at hoverrun
  rw [hk, hk'] at hcongested
  exact ⟨hoverrun, Int.ofNat_le.1 hcongested⟩

end Limits

/-! ### Requests -/

section Requests

variable {c : Context} {o : RouteOptions} {m : RoutingModel} {first : Answer RoutingVar}
  {overrun left : Value} {σ : RoutingVar → Int}

lemma Route.lastObjective?_secondRequest :
    lastObjective? (Route.secondRequest c o m first overrun left) =
      some (aggregateBandwidth m.flows.length m.demands m.numLinks) := by
  have hsplit : ∃ ps : List (Posting RoutingVar), Route.secondRequest c o m first overrun left =
      ps ++ .minimize (aggregateBandwidth m.flows.length m.demands m.numLinks) ::
        [.solve { o.search with timeLimit := left }] :=
    ⟨_, by
      rw [Route.secondRequest, Route.refinement_eq, ← List.append_assoc, List.append_assoc]
      rfl⟩
  obtain ⟨ps, hps⟩ := hsplit
  rw [hps, lastObjective?_append]
  simp [Posting.IsAside]

lemma Route.satisfies_secondRequest :
    Satisfies σ (Route.secondRequest c o m first overrun left) ↔
      Satisfies σ (Route.firstRequest c o) ∧ Satisfies σ (Route.refinement m first overrun) := by
  rw [Route.secondRequest, satisfies_append_solve, satisfies_append]

/-- The first solution meets the second request. -/
lemma IsAssembled.satisfies_secondRequest_self {r k : Int} (hc : c.IsProper)
    (h : IsAssembled c (.int r) (.int k) (Route.built c o) m)
    (hσ : Satisfies σ (Route.firstRequest c o)) (ha : ∀ v, first.value v = .int (σ v))
    (hover : (Route.readOverrun first (.int 0) m.budgets).outcome = .ok overrun) :
    Satisfies σ (Route.secondRequest c o m first overrun left) :=
  Route.satisfies_secondRequest.2
    ⟨hσ, h.satisfies_refinement_self hc (satisfies_append_solve.1 hσ) ha hover⟩

end Requests

end NocRouting
