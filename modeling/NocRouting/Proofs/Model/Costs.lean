import Mathlib.Algebra.BigOperators.Ring.List
import Mathlib.Algebra.Ring.Int.Defs
import NocRouting.Proofs.Lists
import NocRouting.Proofs.Model.Families

/-!
# What a routing costs

Under an assignment that sends flows along the paths of a routing, the expressions of the model
come to the costs of the routing.  The main results are

* `value_routedOver`: the demand routed over a link;
* `value_totalOverrun`, `value_totalCongested` and `value_aggregateBandwidth`: the three terms of
  the objective.
-/

namespace NocRouting

-- Empty sums are the `0` of core, whatever a reader of this module has loaded besides.
attribute [local instance (2000)] Zero.ofOfNat0

open RoutingModel

/-- The assignment sends every flow along its path. -/
def Context.Follows (c : Context) (σ : RoutingVar → Int) (paths : List (List Link)) : Prop :=
  List.Forall₂ (fun f path => ∀ l ∈ c.topology.links,
    (l ∈ path → σ (.link f.id l.index) = 1) ∧ (l ∉ path → σ (.link f.id l.index) = 0))
    c.flows paths

/-! ### One flow -/

section Flow

variable {t : Topology} {σ : RoutingVar → Int} {flow : Nat} {path : List Link}
  (h : ∀ l ∈ t.links, (l ∈ path → σ (.link flow l.index) = 1) ∧
    (l ∉ path → σ (.link flow l.index) = 0))
include h

lemma isTruthOn_of_path : IsTruthOn t σ flow := by
  intro l hl
  by_cases hp : l ∈ path
  · exact Or.inr ((h l hl).1 hp)
  · exact Or.inl ((h l hl).2 hp)

lemma taken_perm_of_path (ht : t.IsSound) (hsub : path ⊆ t.links) (hnodup : path.Nodup) :
    (t.taken σ flow).Perm path := by
  refine (List.perm_ext_iff_of_nodup ht.taken_nodup hnodup).2 fun l => ?_
  rw [Topology.mem_taken]
  constructor
  · rintro ⟨hl, hne⟩
    by_contra hp
    exact hne ((h l hl).2 hp)
  · intro hp
    refine ⟨hsub hp, ?_⟩
    rw [(h l (hsub hp)).1 hp]
    exact Int.one_ne_zero

lemma link_eq_of_path (ht : t.IsSound) (hsub : path ⊆ t.links) {l : Link} (hl : l ∈ t.links) :
    σ (.link flow l.index) = if path.any (·.index == l.index) then 1 else 0 := by
  have hany : path.any (·.index == l.index) = true ↔ l ∈ path := by
    rw [List.any_eq_true]
    constructor
    · rintro ⟨k, hk, hkl⟩
      obtain rfl := ht.link_ext (hsub hk) hl (by simpa using hkl)
      exact hk
    · exact fun hp => ⟨l, hp, by simp⟩
  by_cases hp : l ∈ path
  · rw [(h l hl).1 hp, if_pos (hany.2 hp)]
  · rw [(h l hl).2 hp, if_neg (mt hany.1 hp)]

end Flow

/-! ### Sums -/

section Sums

variable {ν α : Type} {σ : ν → Int}

lemma sum_map_ite (p : α → Bool) (as : List α) :
    (as.map fun a => if p a then (1 : Int) else 0).sum = as.countP p := by
  induction as with
  | nil => simp
  | cons a as ih =>
    rw [List.map_cons, List.sum_cons, ih, List.countP_cons]
    split <;> simp_all [Int.add_comm]

lemma sum_map_flatMap {β : Type} (f : α → List β) (g : β → Int) (as : List α) :
    ((as.flatMap f).map g).sum = (as.map fun a => ((f a).map g).sum).sum := by
  induction as with
  | nil => simp
  | cons a as ih => simp [ih]

lemma value_weightedSum (vars : List ν) (ds : List Int) :
    (LinearExpr.weightedSum vars ds 0).value σ = ((ds.zip vars).map fun (d, v) => d * σ v).sum := by
  simp [LinearExpr.weightedSum, LinearExpr.value]

lemma value_sumOf {σ : RoutingVar → Int} (vars : List RoutingVar) :
    (sumOf vars).value σ = (vars.map σ).sum := by
  simp [sumOf, LinearExpr.sum, LinearExpr.value, Function.comp_def]

end Sums

/-! ### The terms of the objective -/

/-- The demand routed over a link, flow by flow. -/
lemma value_routedOver_eq_sum {c : Context} {σ : RoutingVar → Int} (hc : c.IsProper)
    (demands : List Int) (link : Nat) : (routedOver c.flows.length demands link).value σ =
      ((demands.zip c.flows).map fun (d, f) => d * σ (.link f.id link)).sum := by
  rw [routedOver, value_weightedSum, ← hc.flows.ids, List.map_map, List.zip_map_right,
    List.map_map]
  rfl

section Objective

variable {c : Context} {σ : RoutingVar → Int} {paths : List (List Link)} (hc : c.IsProper)
  (hr : c.IsRouting paths) (h : c.Follows σ paths)
include hc hr h

/-- The flows and their paths, with all that is known of them. -/
lemma forall₂_of_follows : List.Forall₂ (fun f path => IsTruthOn c.topology σ f.id ∧
    (c.topology.taken σ f.id).Perm path ∧ ∀ l ∈ c.topology.links,
      σ (.link f.id l.index) = if path.any (·.index == l.index) then 1 else 0) c.flows paths := by
  refine List.Forall₂.mp ?_ hr h
  rintro f path ⟨a, b, -, hpath⟩ hf
  have ht := hc.topology.isSound
  exact ⟨isTruthOn_of_path hf, taken_perm_of_path hf ht hpath.subset hpath.simple.nodup,
    fun l hl => link_eq_of_path hf ht hpath.subset hl⟩

/-- The demand routed over a link is its load. -/
theorem value_routedOver (demands : List Int) {l : Link} (hl : l ∈ c.topology.links) :
    (routedOver c.flows.length demands l.index).value σ = load demands paths l.index := by
  rw [value_routedOver_eq_sum hc, load]
  refine congrArg List.sum (map_zip_of_forall₂ (forall₂_of_follows hc hr h) ?_ demands)
  rintro d f path ⟨-, -, hf⟩
  simp only [hf l hl]
  split <;> simp

/-- The number of congested links is that of links with more load than the resolution. -/
theorem value_totalCongested {demands : List Int} {resolution : Int}
    (hcongested : ∀ l ∈ c.topology.links, σ (.congested l.index) =
      if resolution < (routedOver c.flows.length demands l.index).value σ then 1 else 0) :
    (totalCongested c.topology.links.length).value σ = c.congested demands resolution paths := by
  rw [totalCongested, value_sumOf, ← hc.topology.isSound.link_index, Context.congested,
    ← sum_map_ite]
  simp only [List.map_map]
  refine congrArg List.sum (List.map_congr_left fun l hl => ?_)
  rw [Function.comp_apply, Function.comp_apply, hcongested l hl,
    value_routedOver hc hr h demands hl]
  simp

/-- The aggregate bandwidth is that of the flows on their paths. -/
theorem value_aggregateBandwidth (demands : List Int) :
    (aggregateBandwidth c.flows.length demands c.topology.links.length).value σ =
      aggregate demands paths := by
  have hvalue : (aggregateBandwidth c.flows.length demands c.topology.links.length).value σ =
      ((demands.zip (List.range c.flows.length)).map fun d =>
        d.1 * ((sumOf (linkVars d.2 c.topology.links)).value σ)).sum := by
    rw [aggregateBandwidth, zipIdx_take, ← List.range_eq_range', LinearExpr.value,
      ← hc.topology.isSound.link_index]
    simp only [sum_map_flatMap, List.map_map, value_sumOf, linkVars, Int.add_zero]
    refine congrArg List.sum (List.map_congr_left fun d _ => ?_)
    exact List.sum_map_mul_left c.topology.links (fun l => σ (.link d.2 l.index)) d.1
  rw [hvalue, ← hc.flows.ids, List.zip_map_right, List.map_map, aggregate]
  refine congrArg List.sum (map_zip_of_forall₂ (forall₂_of_follows hc hr h) ?_ demands)
  rintro d f path ⟨htruth, hperm, -⟩
  simp only [Function.comp_apply, Prod.map_apply, id_eq, value_sumOf_links htruth,
    hperm.length_eq]

/-- The total overrun is that of the flows on their paths. -/
theorem value_totalOverrun {budgets : List (Nat × Int)}
    (hbudgets : budgets = c.flows.filterMap fun f => (c.topology.budget? f).map (f.id, ·))
    (hoverrun : ∀ b ∈ budgets,
      σ (.overrun b.1) = max 0 ((c.topology.taken σ b.1).length - b.2)) :
    (totalOverrun budgets).value σ = c.overrun paths := by
  have hpaths := forall₂_of_follows hc hr h
  rw [totalOverrun, value_sumOf, List.map_map, Context.overrun, hbudgets]
  rw [hbudgets] at hoverrun
  clear hr h
  revert hoverrun
  generalize c.flows = flows at hpaths
  intro hoverrun
  induction hpaths with
  | nil => simp
  | @cons f path flows paths hf _ ih =>
    obtain ⟨-, hperm, -⟩ := hf
    cases hb : c.topology.budget? f with
    | none =>
      have hrest := ih (by simpa [hb] using hoverrun)
      simpa [hb, Topology.overrun] using hrest
    | some budget =>
      simp only [List.filterMap_cons, hb, Option.map_some, List.forall_mem_cons] at hoverrun
      have hrest := ih hoverrun.2
      simp only [List.filterMap_cons, hb, Option.map_some, List.map_cons, List.sum_cons,
        Function.comp_apply, List.zip_cons_cons, Topology.overrun, hrest, hoverrun.1,
        hperm.length_eq]

end Objective

end NocRouting
