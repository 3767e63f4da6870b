import Mathlib.Algebra.Order.BigOperators.Group.List
import NocRouting.Proofs.Model.Exactness

/-!
# Priorities

The objective is a sum with weights.  The weights make it a number of three digits, as it were: the
bandwidth is less than one congested link is worth, and the congested links and the bandwidth
together are less than one overrun is worth.  So whoever minimises the objective minimises the
overrun, then the number of congested links, and then the bandwidth.

* `digits_le_iff` compares numbers by their digits.
* `IsAssembled.value_objective_le_iff` compares the objective of assignments by the costs of their
  routings.
* `isLeast_iff_lexicographic` says which assignments minimise the objective.
-/

namespace NocRouting

-- Empty sums are the `0` of core, whatever a reader of this module has loaded besides.
attribute [local instance (2000)] Zero.ofOfNat0

open RoutingModel

/-- No assignment that meets the postings makes the last objective smaller. -/
def IsLeast {ν : Type} (σ : ν → Int) (ps : List (Posting ν)) : Prop :=
  ∀ e, lastObjective? ps = some e → ∀ τ, Satisfies τ ps → e.value σ ≤ e.value τ

/-! ### Digits -/

/-- Numbers are compared by their first digit, and by the rest if that is the same. -/
lemma digits_le_iff {w a b x y : Int} (hx : 0 ≤ x) (hxw : x < w) (hy : 0 ≤ y) (hyw : y < w) :
    a * w + x ≤ b * w + y ↔ a < b ∨ a = b ∧ x ≤ y := by
  have hw : 0 ≤ w := by omega
  rcases lt_trichotomy a b with hab | rfl | hab
  · have hle : (a + 1) * w ≤ b * w := Int.mul_le_mul_of_nonneg_right (by omega) hw
    rw [Int.add_mul, Int.one_mul] at hle
    omega
  · omega
  · have hle : (b + 1) * w ≤ a * w := Int.mul_le_mul_of_nonneg_right (by omega) hw
    rw [Int.add_mul, Int.one_mul] at hle
    omega

/-- With the weights of the objective, the costs are compared one after the other. -/
lemma weighted_le_iff {demands : List Int} {n : Nat} {o o' a a' : Int} {k k' : Nat} (hk : k ≤ n)
    (hk' : k' ≤ n) (ha : 0 ≤ a ∧ a ≤ demands.sum * n) (ha' : 0 ≤ a' ∧ a' ≤ demands.sum * n) :
    o * (objectiveWeights demands n).1 + k * (objectiveWeights demands n).2 + a ≤
        o' * (objectiveWeights demands n).1 + k' * (objectiveWeights demands n).2 + a' ↔
      toLex (o, toLex (k, a)) ≤ toLex (o', toLex (k', a')) := by
  simp only [objectiveWeights, Prod.Lex.toLex_le_toLex]
  generalize hw : demands.sum * n + 1 = w
  -- what follows the first digit is less than its weight
  have hlow : ∀ (k : Nat) (a : Int), k ≤ n → 0 ≤ a → a < w →
      0 ≤ k * w + a ∧ k * w + a < w * (n + 1) := by
    intro k a hk ha haw
    have hpos : 0 ≤ (k : Int) * w := Int.mul_nonneg (by omega) (by omega)
    have hle : (k : Int) * w ≤ n * w := Int.mul_le_mul_of_nonneg_right (by omega) (by omega)
    rw [Int.mul_add, Int.mul_one, Int.mul_comm w]
    omega
  have hlowk := hlow k a hk ha.1 (by omega)
  have hlowk' := hlow k' a' hk' ha'.1 (by omega)
  rw [Int.add_assoc, Int.add_assoc, digits_le_iff hlowk.1 hlowk.2 hlowk'.1 hlowk'.2,
    digits_le_iff ha.1 (by omega) ha'.1 (by omega), Int.ofNat_lt, Int.natCast_inj]

/-! ### Bounds -/

/-- The bandwidth of a routing is at most that of all flows on all links. -/
lemma aggregate_bounds {demands : List Int} {paths : List (List Link)} {n : Nat}
    (hd : ∀ d ∈ demands, 0 ≤ d) (hn : ∀ path ∈ paths, path.length ≤ n) :
    0 ≤ aggregate demands paths ∧ aggregate demands paths ≤ demands.sum * n := by
  induction demands generalizing paths with
  | nil => simp [aggregate]
  | cons d demands ih =>
    cases paths with
    | nil => simpa [aggregate] using Int.mul_nonneg (List.sum_nonneg hd) (Int.natCast_nonneg n)
    | cons path paths =>
      have hn' : ∀ p ∈ paths, p.length ≤ n := fun p hp => hn p (by simp [hp])
      obtain ⟨hlow, hhigh⟩ := ih (fun d hd' => hd d (by simp [hd'])) hn'
      have hfirst := hd d (by simp)
      have hpath : path.length ≤ n := hn path (by simp)
      have hpos : 0 ≤ d * path.length := Int.mul_nonneg hfirst (by omega)
      have hle : d * path.length ≤ d * n := Int.mul_le_mul_of_nonneg_left (by omega) hfirst
      have hcons : aggregate (d :: demands) (path :: paths) =
          d * path.length + aggregate demands paths := by
        simp [aggregate]
      rw [hcons, List.sum_cons, Int.add_mul]
      omega

namespace Context

variable {c : Context} {paths : List (List Link)}

lemma IsRouting.length_le (hr : c.IsRouting paths) {path : List Link} (hpath : path ∈ paths) :
    path.length ≤ c.topology.links.length := by
  obtain ⟨f, -, a, b, -, hpermits⟩ := exists_left_of_mem hr hpath
  exact hpermits.length_le

lemma congested_le (demands : List Int) (resolution : Int) :
    c.congested demands resolution paths ≤ c.topology.links.length :=
  List.countP_le_length

lemma overrun_nonneg : 0 ≤ c.overrun paths := by
  refine List.sum_nonneg fun n hn => ?_
  obtain ⟨⟨f, path⟩, -, rfl⟩ := List.mem_map.1 hn
  show 0 ≤ c.topology.overrun f path
  unfold Topology.overrun
  split
  · exact le_max_left _ _
  · exact le_rfl

end Context

/-! ### The objective -/

section Objective

variable {c : Context} {m : RoutingModel} {ps : List (Posting RoutingVar)} {r k : Int}
  {σ τ : RoutingVar → Int} {paths others : List (List Link)}
  (hc : c.IsProper) (h : IsAssembled c (.int r) (.int k) ps m)
include hc h

/-- The terms of the objective are the costs of the routing. -/
lemma IsAssembled.value_terms (hσ : Satisfies σ ps) (hr : c.IsRouting paths)
    (hf : c.Follows σ paths) : (totalOverrun m.budgets).value σ = c.overrun paths ∧
      (totalCongested m.numLinks).value σ = c.congested m.demands r paths ∧
      (aggregateBandwidth m.flows.length m.demands m.numLinks).value σ =
        aggregate m.demands paths := by
  obtain ⟨-, hbudgets, hcongested⟩ := h.satisfies_iff.1 hσ
  rw [h.numLinks, h.length_flows]
  exact ⟨value_totalOverrun hc hr hf h.budgets_eq fun b hb => (hbudgets b hb).2,
    value_totalCongested hc hr hf hcongested, value_aggregateBandwidth hc hr hf m.demands⟩

lemma IsAssembled.value_objective (hσ : Satisfies σ ps) (hr : c.IsRouting paths)
    (hf : c.Follows σ paths) :
    (objective m.flows.length m.demands m.budgets m.numLinks).value σ =
      c.overrun paths * (objectiveWeights m.demands c.topology.links.length).1 +
        c.congested m.demands r paths * (objectiveWeights m.demands c.topology.links.length).2 +
        aggregate m.demands paths := by
  obtain ⟨hover, hcong, hagg⟩ := h.value_terms hc hσ hr hf
  rw [objective, LinearExpr.value_add, LinearExpr.value_add, LinearExpr.value_scale,
    LinearExpr.value_scale, hover, hcong, hagg, h.numLinks]

lemma IsAssembled.value_objective_nonneg (hd : ∀ d ∈ m.demands, 0 ≤ d) (hσ : Satisfies σ ps)
    (hr : c.IsRouting paths) (hf : c.Follows σ paths) :
    0 ≤ (objective m.flows.length m.demands m.budgets m.numLinks).value σ := by
  have hpos : 0 ≤ m.demands.sum * c.topology.links.length :=
    Int.mul_nonneg (List.sum_nonneg hd) (Int.natCast_nonneg _)
  have hover : 0 ≤ c.overrun paths := Context.overrun_nonneg
  have hterm := Int.mul_nonneg hover
    (Int.mul_nonneg (Int.le_add_one hpos) (Int.natCast_nonneg (c.topology.links.length + 1)))
  have hcong := Int.mul_nonneg (Int.natCast_nonneg (c.congested m.demands r paths))
    (Int.le_add_one hpos)
  have hagg := (aggregate_bounds hd fun _ => hr.length_le).1
  rw [h.value_objective hc hσ hr hf]
  simp only [objectiveWeights]
  exact Int.add_nonneg (Int.add_nonneg hterm hcong) hagg

/-- The objective of assignments is compared by the costs of their routings. -/
theorem IsAssembled.value_objective_le_iff (hd : ∀ d ∈ m.demands, 0 ≤ d) (hσ : Satisfies σ ps)
    (hr : c.IsRouting paths) (hf : c.Follows σ paths) (hτ : Satisfies τ ps)
    (hr' : c.IsRouting others) (hf' : c.Follows τ others) :
    (objective m.flows.length m.demands m.budgets m.numLinks).value σ ≤
        (objective m.flows.length m.demands m.budgets m.numLinks).value τ ↔
      c.cost m.demands r paths ≤ c.cost m.demands r others := by
  rw [h.value_objective hc hσ hr hf, h.value_objective hc hτ hr' hf']
  exact weighted_le_iff (Context.congested_le m.demands r) (Context.congested_le m.demands r)
    (aggregate_bounds hd fun _ => hr.length_le) (aggregate_bounds hd fun _ => hr'.length_le)

/-- The paths of a legal routing meet the model if anything does. -/
lemma IsAssembled.satisfies_assignment_of_satisfies (hσ : Satisfies σ ps)
    (hr : c.IsRouting paths) : Satisfies (Search.assignment m (.int r) paths) ps :=
  h.satisfies_assignment hc hr fun b hb => ((h.satisfies_iff.1 hσ).2.1 b hb).1

theorem IsAssembled.isLeast_iff (hd : ∀ d ∈ m.demands, 0 ≤ d) (hσ : Satisfies σ ps)
    (hr : c.IsRouting paths) (hf : c.Follows σ paths) :
    IsLeast σ ps ↔
      ∀ others, c.IsRouting others → c.cost m.demands r paths ≤ c.cost m.demands r others := by
  constructor
  · intro hleast others hr'
    have hτ := h.satisfies_assignment_of_satisfies hc hσ hr'
    have hf' := follows_assignment (m := m) (r := r) hc hr'
    exact (h.value_objective_le_iff hc hd hσ hr hf hτ hr' hf').1
      (hleast _ h.lastObjective? _ hτ)
  · intro hleast e he τ hτ
    obtain rfl : _ = e := Option.some.inj (h.lastObjective?.symm.trans he)
    obtain ⟨others, hr', hf'⟩ := h.exists_routing hc hτ
    exact (h.value_objective_le_iff hc hd hσ hr hf hτ hr' hf').2 (hleast others hr')

end Objective

/-- An assignment that meets a model minimises the objective exactly if no legal routing is better
than its own, by the overrun first, then by the number of congested links, and then by the
bandwidth. -/
theorem isLeast_iff_lexicographic {c : Context} {r k : Int} {m : RoutingModel}
    {σ : RoutingVar → Int} (hc : c.IsProper)
    (hm : (build c (.int r) (.int k)).outcome = .ok m) (hd : ∀ d ∈ m.demands, 0 ≤ d)
    (hσ : Satisfies σ (build c (.int r) (.int k)).postings) :
    ∃ e, lastObjective? (build c (.int r) (.int k)).postings = some e ∧
      (∃ paths, c.IsRouting paths ∧ c.Follows σ paths) ∧
      ∀ paths, c.IsRouting paths → c.Follows σ paths →
        ((∀ τ, Satisfies τ (build c (.int r) (.int k)).postings → e.value σ ≤ e.value τ) ↔
          ∀ others, c.IsRouting others →
            c.cost m.demands r paths ≤ c.cost m.demands r others) := by
  have h : IsAssembled c (.int r) (.int k) (build c (.int r) (.int k)).postings m :=
    isAssembled_of_build (by rw [← hm])
  refine ⟨_, h.lastObjective?, h.exists_routing hc hσ, fun paths hr hf => ?_⟩
  rw [← h.isLeast_iff hc hd hσ hr hf]
  constructor
  · intro hleast e he
    obtain rfl : _ = e := Option.some.inj (h.lastObjective?.symm.trans he)
    exact hleast
  · intro hleast
    exact hleast _ h.lastObjective?

/-- Around the corner, with both flows on the link that follows it. -/
theorem corner_isLeast_iff_lexicographic : Corner.context.IsProper ∧
    ∃ m σ, (build Corner.context (.int 128) (.int 20)).outcome = .ok m ∧
      (∀ d ∈ m.demands, 0 ≤ d) ∧
      Satisfies σ (build Corner.context (.int 128) (.int 20)).postings ∧
      ∃ e, lastObjective? (build Corner.context (.int 128) (.int 20)).postings = some e ∧
        (∃ paths, Corner.context.IsRouting paths ∧ Corner.context.Follows σ paths) ∧
        ∀ paths, Corner.context.IsRouting paths → Corner.context.Follows σ paths →
          ((∀ τ, Satisfies τ (build Corner.context (.int 128) (.int 20)).postings →
              e.value σ ≤ e.value τ) ↔
            ∀ others, Corner.context.IsRouting others →
              Corner.context.cost m.demands 128 paths ≤
                Corner.context.cost m.demands 128 others) := by
  obtain ⟨m, hm, hdemands⟩ := Corner.exists_model
  have h : IsAssembled Corner.context (.int 128) (.int 20) _ m :=
    isAssembled_of_build (by rw [← hm])
  have hd : ∀ d ∈ m.demands, 0 ≤ d := by simp [hdemands]
  have hσ := h.satisfies_assignment Corner.isProper Corner.isRouting fun b _ =>
    Int.le_trans (by decide) (le_max_left _ _)
  exact ⟨Corner.isProper, m, _, hm, hd, hσ,
    isLeast_iff_lexicographic Corner.isProper hm hd hσ⟩

end NocRouting
