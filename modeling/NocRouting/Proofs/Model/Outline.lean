import NocRouting.Proofs.Model.Families

/-!
# What is posted before the objective

A model is built in two parts.  First the variables are created and constrained, which is most of
the work and may fail; then the objective is set and known routes are given as hints.

* `RoutingModel.outline` is the first part, and `RoutingModel.build_eq` puts the two together.
* `RoutingModel.isDemand_of_mem_outline` says that the first part does no more than create and
  constrain variables.
-/

namespace NocRouting

/-- The posting creates a variable or constrains those there are. -/
def Posting.IsDemand {ν : Type} : Posting ν → Prop
  | .newBool _ | .newInt _ _ _ | .constrain _ => True
  | _ => False

namespace RoutingModel

/-- What is worked out in the first part. -/
structure Outline where
  flows : List RoutedFlow
  demands : List Int
  budgets : List (Nat × Int)

/-- The first part of building a model: its variables and constraints. -/
def outline (c : Context) (resolution maxOverrun : Value) : RoutingDraft Outline := do
  let t := c.topology
  let flows ← c.flows.mapM fun f => do
    let (source, sink) ← c.flowRouters f
    return RoutedFlow.mk f source sink
  let demands ← rescale (c.flows.map (·.bandwidth)) t.linkBandwidth resolution
  .postAll (linkVariables t flows)
  let budgets ← overrunCounters t maxOverrun flows
  congestionIndicators t flows.length demands resolution
  .postAll (legalTurns (t.illegalTurns c.turnModel) flows)
  .postAll (flows.flatMap (continuity t))
  discard <| Draft.forEach (progress t) flows
  return ⟨flows, demands, budgets⟩

/-- The second part of building a model: its objective and its hints. -/
def complete (c : Context) (o : Outline) : RoutingDraft RoutingModel := do
  let t := c.topology
  .post (.minimize (objective o.flows.length o.demands o.budgets t.links.length))
  let hinted ← Draft.forEach (routeHints t) o.flows
  return {
    flows := o.flows
    demands := o.demands
    budgets := o.budgets
    numLinks := t.links.length
    numIllegalTurns := (t.illegalTurns c.turnModel).length
    numHinted := hinted.countP id }

/-- A model is built part by part. -/
theorem build_eq (c : Context) (resolution maxOverrun : Value) :
    build c resolution maxOverrun = outline c resolution maxOverrun >>= complete c := by
  simp only [build, outline, complete, bind_assoc, pure_bind]

/-! ### Demands -/

section Demands

variable {t : Topology}

lemma isDemand_of_mem_joiningArc {flow : Nat} {j : Link × List Link} :
    ∀ p ∈ (joiningArc flow j).1, p.IsDemand := by
  obtain ⟨k, _ | ⟨l, others⟩⟩ := j
  · simp [joiningArc]
  · simp [joiningArc, equals, Posting.IsDemand]

lemma isDemand_of_mem_continuity {f : RoutedFlow} : ∀ p ∈ continuity t f, p.IsDemand := by
  intro p hp
  by_cases hends : f.source = f.sink
  · rw [continuity, if_pos hends] at hp
    obtain ⟨c, rfl⟩ := exists_constraint_of_mem_unused p hp
    trivial
  · rw [continuity_of_ne hends, List.mem_append] at hp
    rcases hp with hp | hp
    · obtain ⟨c, rfl⟩ := exists_constraint_of_mem_degrees p hp
      trivial
    · revert p
      simp only [closedPath, List.forall_mem_append, List.mem_flatMap, List.mem_map]
      refine ⟨⟨⟨?_, by simp [Posting.IsDemand]⟩, ?_⟩, by simp [Posting.IsDemand]⟩
      · rintro p ⟨x, ⟨j, -, rfl⟩, hp⟩
        exact isDemand_of_mem_joiningArc p hp
      · rintro p ⟨r, -, rfl⟩
        trivial

lemma isDemand_of_mem_overrunCounters {maxOverrun : Value} {flows : List RoutedFlow} :
    ∀ p ∈ (overrunCounters t maxOverrun flows).postings, p.IsDemand := by
  induction flows with
  | nil => simp [overrunCounters]
  | cons f flows ih =>
    rw [overrunCounters]
    refine Draft.forall_mem_bind (by simp) fun constrained => ?_
    split
    · refine Draft.forall_mem_bind (by simp) fun budget => Draft.forall_mem_bind (by simp)
        fun greatest => Draft.forall_mem_bind ?_ fun _ => Draft.forall_mem_bind ih fun _ => by simp
      simp [Draft.postAll, overrunCounter, Posting.IsDemand]
    · exact ih

lemma isDemand_of_mem_congestionIndicator {numFlows : Nat} {demands : List Int}
    {resolution : Value} {l : Link} :
    ∀ p ∈ (congestionIndicator numFlows demands resolution l).postings, p.IsDemand := by
  unfold congestionIndicator
  refine Draft.forall_mem_bind (by simp [Draft.post, Posting.IsDemand]) fun _ => ?_
  have hrest : ∀ p ∈ ((do
      .post (.constrain (.linear (routedOver numFlows demands l.index) none (some resolution)
        (some (Literal.of (.congested l.index)).negated)))
      let beyond ← resolution.plus (.int 1)
      .post (.constrain (.linear (routedOver numFlows demands l.index) (some beyond) none
        (some (Literal.of (.congested l.index))))) : RoutingDraft Unit)).postings,
      p.IsDemand := by
    refine Draft.forall_mem_bind (by simp [Draft.post, Posting.IsDemand]) fun _ => ?_
    refine Draft.forall_mem_bind (by simp) fun _ => ?_
    simp [Draft.post, Posting.IsDemand]
  split
  · exact Draft.forall_mem_bind (by simp [Draft.fail]) fun _ => hrest
  · exact hrest

lemma isDemand_of_mem_progress {f : RoutedFlow} :
    ∀ p ∈ (progress t f).postings, p.IsDemand := by
  intro p hp
  obtain ⟨_, _, _, rfl⟩ := exists_of_mem_progress p hp
  trivial

end Demands

/-- The first part posts demands and nothing else, whether it is carried through or not. -/
theorem isDemand_of_mem_outline {c : Context} {resolution maxOverrun : Value} :
    ∀ p ∈ (outline c resolution maxOverrun).postings, p.IsDemand := by
  unfold outline
  refine Draft.forall_mem_bind (Draft.forall_mem_mapM fun f _ =>
    Draft.forall_mem_bind (by simp) fun _ => by simp) fun flows => ?_
  refine Draft.forall_mem_bind (by simp) fun demands => ?_
  refine Draft.forall_mem_bind ?_ fun _ => ?_
  · simp only [Draft.postAll, linkVariables, linkVars, List.map_map, List.mem_flatMap, List.mem_map]
    rintro p ⟨f, -, l, -, rfl⟩
    trivial
  refine Draft.forall_mem_bind isDemand_of_mem_overrunCounters fun budgets => ?_
  refine Draft.forall_mem_bind (Draft.forall_mem_bind (Draft.forall_mem_forEach fun l _ =>
    isDemand_of_mem_congestionIndicator) fun _ => by simp [Draft.done]) fun _ => ?_
  refine Draft.forall_mem_bind ?_ fun _ => Draft.forall_mem_bind ?_ fun _ => ?_
  · simp only [Draft.postAll, legalTurns, List.mem_flatMap, List.mem_map]
    rintro p ⟨f, -, turn, -, rfl⟩
    trivial
  · intro p hp
    obtain ⟨f, -, hp⟩ := List.mem_flatMap.1 hp
    exact isDemand_of_mem_continuity p hp
  refine Draft.forall_mem_bind (Draft.forall_mem_bind (Draft.forall_mem_forEach fun f _ =>
    isDemand_of_mem_progress) fun _ => by simp [Draft.done]) fun _ => by simp

end RoutingModel

end NocRouting
