import Mathlib.Tactic.FieldSimp
import Mathlib.Tactic.Linarith
import Mathlib.Tactic.NormNum
import Mathlib.Tactic.Ring
import NocRouting.Proofs.Model.Exactness
import NocRouting.Proofs.Model.Quantities

/-!
# What an overrun means

A flow takes time on every link of its path and on every router, of which there is one more.  A
model does not count time but links, and compares their number with a budget, which may be negative
where not even a single router is fast enough.  The counter of a flow is then the number of links by
which its path would have to be shorter, even if it had less than none left.

* `travelTime` is the time for a number of links, which may be negative.
* `travelTime_le_iff` says that the budget is the greatest number of links within a latency.
* `overrun_counts_excess` says what follows for the counter of a flow, and
  `overrun_of_budgetsExactly` says it of the latencies that a context gives.
-/

namespace NocRouting

open RoutingModel

/-- The time that a number of links and the routers before, between and behind them take. -/
def travelTime (link router : ℚ) (n : ℤ) : ℚ :=
  n * link + (n + 1) * router

variable {link router latency : ℚ}

lemma travelTime_length (link router : ℚ) (a : Nat) (path : List Link) :
    travelTime link router path.length = path.length * link + (visits a path).length * router := by
  simp [travelTime, visits]

/-- The budget is the greatest number of links that can be taken in time. -/
lemma travelTime_le_iff (hhop : 0 < link + router) (n : ℤ) :
    travelTime link router n ≤ latency ↔ n ≤ ⌊(latency - router) / (link + router)⌋ := by
  rw [Int.le_floor, le_div_iff₀ hhop, travelTime]
  constructor <;> intro h <;> linarith

/-- What exceeds a budget is the least number of links to be saved. -/
lemma max_excess (budget : ℤ) (n : Nat) : ∃ excess : Nat, max 0 (n - budget) = excess ∧
    n - excess ≤ budget ∧ ∀ j : Nat, (n - j : ℤ) ≤ budget → excess ≤ j := by
  refine ⟨(n - budget).toNat, ?_, ?_, fun j hj => ?_⟩ <;> omega

section Counter

variable {c : Context} {r k : Int} {m : RoutingModel} {f : Flow}

/-- The counter of a flow in a model whose budget for the flow is worked out exactly. -/
lemma IsAssembledOn.exists_excess {μ : Measures} {ps : List (Posting RoutingVar)}
    {σ : RoutingVar → Int} (h : IsAssembledOn μ c (.int r) (.int k) ps m) (hc : c.IsProper)
    (hhop : 0 < link + router) (hlatency : 0 < latency)
    (hμ : μ.budget f = Reckoning.rationals.limit link router (some latency)) (hf : f ∈ c.flows)
    (hσ : Satisfies σ ps) :
    ∃ a b path, c.flowRouters f = .ok (a, b) ∧ c.Permits a b path ∧
      (c.topology.taken σ f.id).Perm path ∧
      (σ (.overrun f.id) = 0 ↔
        path.length * link + (visits a path).length * router ≤ latency) ∧
      ∃ excess : Nat, σ (.overrun f.id) = excess ∧
        travelTime link router (path.length - excess) ≤ latency ∧
        ∀ j : Nat, travelTime link router (path.length - j) ≤ latency → excess ≤ j := by
  obtain ⟨g, hg, rfl, hends⟩ := exists_right_of_mem h.flows hf
  obtain ⟨path, hpath, hperm⟩ :=
    (h.isRouted hσ hg).exists_path hc.topology.isSound (h.progress g hg)
  refine ⟨g.source, g.sink, path, hends, hpath, hperm, ?_⟩
  rw [Reckoning.limit_rationals hhop.ne' hlatency] at hμ
  have hbudget : (g.flow.id, ⌊(latency - router) / (link + router)⌋) ∈ m.budgets := by
    rw [h.budgets_eq, List.mem_filterMap]
    exact ⟨g.flow, hf, by simp [Measures.budget?, hμ, Except.toOption]⟩
  have hcounter := ((h.satisfies_iff.1 hσ).2.1 _ hbudget).2
  rw [hperm.length_eq] at hcounter
  rw [← travelTime_length]
  simp only [travelTime_le_iff hhop, hcounter]
  exact ⟨by omega, max_excess _ _⟩

/-- The counter of a flow whose latency is limited, if its budget is worked out exactly.  It is zero
if and only if the path of the flow is fast enough, and in general the least number of links by
which it would have to be shorter.  Counters can hold whatever is needed for the paths that flows
may take. -/
theorem overrun_counts_excess {μ : Measures} (hc : c.IsProper) (hhop : 0 < link + router)
    (hlatency : 0 < latency) (hk : 0 ≤ k)
    (hμ : μ.budget f = Reckoning.rationals.limit link router (some latency))
    (hm : (μ.build c (.int r) (.int k)).outcome = .ok m) (hf : f ∈ c.flows) :
    (∀ paths, c.IsRouting paths → ∃ σ, Satisfies σ (μ.build c (.int r) (.int k)).postings ∧
      c.Follows σ paths) ∧
    ∀ σ, Satisfies σ (μ.build c (.int r) (.int k)).postings →
      ∃ a b path, c.flowRouters f = .ok (a, b) ∧ c.Permits a b path ∧
        (c.topology.taken σ f.id).Perm path ∧
        (σ (.overrun f.id) = 0 ↔
          path.length * link + (visits a path).length * router ≤ latency) ∧
        ∃ excess : Nat, σ (.overrun f.id) = excess ∧
          travelTime link router (path.length - excess) ≤ latency ∧
          ∀ j : Nat, travelTime link router (path.length - j) ≤ latency → excess ≤ j := by
  have h : IsAssembledOn μ c (.int r) (.int k) _ m := isAssembledOn_of_build (by rw [← hm])
  exact ⟨fun paths hr => ⟨_, h.satisfies_assignment hc hr fun b _ => hk.trans (le_max_left _ _),
    follows_assignment hc hr⟩, fun σ hσ => h.exists_excess hc hhop hlatency hμ hf hσ⟩

/-- In the model that is built for a context, the counter of a flow tells of the latencies that the
context gives, if numbers come to the same budget for it as fractions do. -/
theorem overrun_of_budgetsExactly {σ : RoutingVar → Int} (hc : c.IsProper)
    (hexact : c.BudgetsExactly f)
    (hhop : 0 < c.topology.linkLatency.fraction + c.topology.routerLatency.fraction)
    (hlatency : 0 < f.maxLatency.fraction)
    (hm : (build c (.int r) (.int k)).outcome = .ok m) (hf : f ∈ c.flows)
    (hσ : Satisfies σ (build c (.int r) (.int k)).postings) :
    let time := travelTime c.topology.linkLatency.fraction c.topology.routerLatency.fraction
    ∃ a b path, c.flowRouters f = .ok (a, b) ∧ c.Permits a b path ∧
      (c.topology.taken σ f.id).Perm path ∧
      ∃ excess : Nat, σ (.overrun f.id) = excess ∧
        time (path.length - excess) ≤ f.maxLatency.fraction ∧
        ∀ j : Nat, time (path.length - j) ≤ f.maxLatency.fraction → excess ≤ j := by
  rw [build_eq_build_measures] at hm hσ
  have h : IsAssembledOn _ c (.int r) (.int k) _ m := isAssembledOn_of_build (by rw [← hm])
  obtain ⟨a, b, path, hends, hpath, hperm, -, hexcess⟩ :=
    h.exists_excess hc hhop hlatency (hexact.budget_eq _) hf hσ
  exact ⟨a, b, path, hends, hpath, hperm, hexcess⟩

end Counter

namespace Corner

lemma limit_fractions : Reckoning.rationals.limit context.topology.linkLatency.fraction
    context.topology.routerLatency.fraction (some traffic[2].maxLatency.fraction) =
      Reckoning.rationals.limit 1 1 (some 4) := by
  simp [context, topology, traffic]

/-- Around the corner, the budget of the last flow comes out exactly: there is time for one link and
a half. -/
lemma budgetsExactly : context.BudgetsExactly traffic[2] := by
  refine ⟨_, _, _, rfl, rfl, rfl, ?_⟩
  rw [limit_fractions, Reckoning.limit_rationals (by norm_num) (by norm_num)]
  have hfloor : ⌊((4 : ℚ) - 1) / (1 + 1)⌋ = 1 := by norm_num
  rw [hfloor]
  rfl

end Corner

/-- The last flow around the corner, which has to take two links, has time for one. -/
theorem corner_overrun_counts_excess : ∃ m : RoutingModel,
    let μ := Corner.context.measures (.int 128)
    let f := Corner.traffic[2]
    Corner.context.IsProper ∧ (0 : ℚ) < 1 + 1 ∧ (0 : ℚ) < 4 ∧ (0 : Int) ≤ 20 ∧
      μ.budget f = Reckoning.rationals.limit 1 1 (some 4) ∧
      (μ.build Corner.context (.int 128) (.int 20)).outcome = .ok m ∧
      f ∈ Corner.context.flows ∧
      (∀ paths, Corner.context.IsRouting paths →
        ∃ σ, Satisfies σ (μ.build Corner.context (.int 128) (.int 20)).postings ∧
          Corner.context.Follows σ paths) ∧
      ∀ σ, Satisfies σ (μ.build Corner.context (.int 128) (.int 20)).postings →
        ∃ a b path, Corner.context.flowRouters f = .ok (a, b) ∧
          Corner.context.Permits a b path ∧ (Corner.topology.taken σ f.id).Perm path ∧
          (σ (.overrun f.id) = 0 ↔
            path.length * (1 : ℚ) + (visits a path).length * (1 : ℚ) ≤ 4) ∧
          ∃ excess : Nat, σ (.overrun f.id) = excess ∧
            travelTime 1 1 (path.length - excess) ≤ 4 ∧
            ∀ j : Nat, travelTime 1 1 (path.length - j) ≤ 4 → excess ≤ j := by
  obtain ⟨m, hm, -⟩ := Corner.exists_model
  rw [build_eq_build_measures] at hm
  have hf : Corner.traffic[2] ∈ Corner.context.flows := List.getElem_mem _
  have hμ := (Corner.budgetsExactly.budget_eq (.int 128)).trans Corner.limit_fractions
  exact ⟨m, Corner.isProper, by norm_num, by norm_num, by decide, hμ, hm, hf,
    overrun_counts_excess Corner.isProper (by norm_num) (by norm_num) (by decide) hμ hm hf⟩

end NocRouting
