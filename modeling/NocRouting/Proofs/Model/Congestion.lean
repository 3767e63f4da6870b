import Mathlib.Tactic.FieldSimp
import Mathlib.Tactic.Linarith
import Mathlib.Tactic.NormNum
import NocRouting.Proofs.Model.Exactness
import NocRouting.Proofs.Model.Quantities

/-!
# What congestion means

The demand of every flow is rounded down to whole units before anything is added up, so what a model
counts on a link is less than what the flows on it demand.  Each flow accounts for less than one
unit of that.  No link is taken to be congested that is not, and a link that is taken not to be may
be overloaded by as many units as it has flows.

* `value_routedOver_map` says that a model counts the units of the flows on a link.
* `sum_units_bounds` compares these units with what the flows demand.
* `indicator_tells_overload` says what follows for the indicator of a link, and
  `indicator_of_countsExactly` what it tells of the figures of a context.
-/

namespace NocRouting

-- Empty sums are the `0` of core, whatever a reader of this module has loaded besides.
attribute [local instance (2000)] Zero.ofOfNat0

open RoutingModel

/-- The flows that take a link. -/
def Context.flowsOver (c : Context) (σ : RoutingVar → Int) (link : Nat) : List Flow :=
  c.flows.filter fun f => σ (.link f.id link) != 0

variable {c : Context} {σ : RoutingVar → Int}

/-! ### Units -/

/-- Figures that are multiplied by truth values are those of the items with a true one. -/
lemma sum_map_mul_truth {α : Type} (figure truth : α → Int) {as : List α}
    (h : ∀ a ∈ as, truth a = 0 ∨ truth a = 1) : (as.map fun a => figure a * truth a).sum =
      ((as.filter fun a => truth a != 0).map figure).sum := by
  induction as with
  | nil => rfl
  | cons a as ih =>
    rw [List.map_cons, List.sum_cons, ih fun b hb => h b (List.mem_cons_of_mem a hb)]
    rcases h a List.mem_cons_self with ha | ha <;> simp [ha]

/-- The demand routed over a link is that of the flows which take it. -/
lemma value_routedOver_map (hc : c.IsProper) (units : Flow → Int) {link : Nat}
    (htruth : ∀ f ∈ c.flows, σ (.link f.id link) = 0 ∨ σ (.link f.id link) = 1) :
    (routedOver c.flows.length (c.flows.map units) link).value σ =
      ((c.flowsOver σ link).map units).sum := by
  have hzip : (c.flows.map units).zip c.flows = c.flows.map fun f => (units f, f) := by
    rw [← List.zip_map', List.map_id']
  rw [value_routedOver_eq_sum hc, hzip, List.map_map, Context.flowsOver,
    ← sum_map_mul_truth units (fun f => σ (.link f.id link)) htruth]
  rfl

/-- Rounding down loses something, but less than a unit for each demand. -/
lemma sum_units_bounds {α : Type} (as : List α) (demand : α → ℚ) {capacity : ℚ} (r : ℚ)
    (hcap : 0 < capacity) :
    capacity * ((as.map fun a => ⌊demand a / capacity * r⌋).sum : ℤ) ≤ (as.map demand).sum * r ∧
      (as.map demand).sum * r ≤
        capacity * ((as.map fun a => ⌊demand a / capacity * r⌋).sum + as.length : ℤ) := by
  induction as with
  | nil => simp
  | cons a as ih =>
    have hunits : capacity * (demand a / capacity * r) = demand a * r := by field_simp
    have hle := mul_le_mul_of_nonneg_left (Int.floor_le (demand a / capacity * r)) hcap.le
    have hlt := mul_le_mul_of_nonneg_left (Int.lt_floor_add_one (demand a / capacity * r)).le hcap.le
    rw [hunits] at hle hlt
    simp only [List.map_cons, List.sum_cons, List.length_cons]
    push_cast at ih ⊢
    constructor
    · linarith [ih.1]
    · linarith [ih.2]

/-! ### Indicators -/

section Indicator

variable {maxOverrun : Value} {m : RoutingModel} {demand : Flow → ℚ} {capacity : ℚ} {r : Int}
  {l : Link}

/-- The indicator of a link in a model whose demands are measured exactly. -/
lemma IsAssembledOn.indicator_bounds {μ : Measures} {ps : List (Posting RoutingVar)}
    (h : IsAssembledOn μ c (.int r) maxOverrun ps m) (hc : c.IsProper) (hcap : 0 < capacity)
    (hr : 0 < r) (hμ : μ.demands = Reckoning.rationals.units (c.flows.map demand) capacity r)
    (hσ : Satisfies σ ps) (hl : l ∈ c.topology.links) :
    (σ (.congested l.index) = 0 ∨ σ (.congested l.index) = 1) ∧
      (σ (.congested l.index) = 1 → capacity < ((c.flowsOver σ l.index).map demand).sum) ∧
      (σ (.congested l.index) = 0 → ((c.flowsOver σ l.index).map demand).sum * r ≤
        capacity * (r + (c.flowsOver σ l.index).length)) := by
  have hdemands : m.demands = c.flows.map fun f => ⌊demand f / capacity * r⌋ := by
    have hunits := h.demands.symm.trans hμ
    rw [Reckoning.units_rationals hcap.ne', List.map_map] at hunits
    exact Except.ok.inj hunits
  have hvalue := h.congested_eq hσ hl
  rw [hdemands, value_routedOver_map hc _ fun f hf => h.truth hσ hf l hl] at hvalue
  obtain ⟨hle, hlt⟩ := sum_units_bounds (c.flowsOver σ l.index) demand r hcap
  generalize ((c.flowsOver σ l.index).map fun f => ⌊demand f / capacity * r⌋).sum = load at *
  generalize ((c.flowsOver σ l.index).map demand).sum = total at *
  rw [hvalue]
  by_cases hload : r < load
  · refine ⟨by simp [hload], fun _ => ?_, by simp [hload]⟩
    -- the load is above the resolution by at least one unit
    have hmore : capacity * r < total * r :=
      (mul_lt_mul_of_pos_left (Int.cast_lt.2 hload) hcap).trans_le hle
    exact lt_of_mul_lt_mul_right hmore (Int.cast_pos.2 hr).le
  · refine ⟨by simp [hload], by simp [hload], fun _ => hlt.trans ?_⟩
    have hfew : ((load + (c.flowsOver σ l.index).length : ℤ) : ℚ) ≤
        r + (c.flowsOver σ l.index).length := by
      exact_mod_cast Int.add_le_add_right (not_lt.1 hload) _
    exact mul_le_mul_of_nonneg_left hfew hcap.le

/-- The indicator of a link, if demands are measured exactly.  It is only true if the flows on the
link demand more than its capacity, and it is only false if what they demand beyond that is at most
one unit for each of them.  The capacity has as many units as the resolution says. -/
theorem indicator_tells_overload {μ : Measures} (hc : c.IsProper) (hcap : 0 < capacity)
    (hr : 0 < r)
    (hμ : μ.demands = Reckoning.rationals.units (c.flows.map demand) capacity r)
    (hm : (μ.build c (.int r) maxOverrun).outcome = .ok m)
    (hσ : Satisfies σ (μ.build c (.int r) maxOverrun).postings) (hl : l ∈ c.topology.links) :
    (σ (.congested l.index) = 0 ∨ σ (.congested l.index) = 1) ∧
      (σ (.congested l.index) = 1 → capacity < ((c.flowsOver σ l.index).map demand).sum) ∧
      (σ (.congested l.index) = 0 → ((c.flowsOver σ l.index).map demand).sum * r ≤
        capacity * (r + (c.flowsOver σ l.index).length)) :=
  have h : IsAssembledOn μ c (.int r) maxOverrun _ m := isAssembledOn_of_build (by rw [← hm])
  h.indicator_bounds hc hcap hr hμ hσ hl

/-- In the model that is built for a context, the indicator tells of the bandwidths that the context
gives, if doubles come to the same units for them as fractions do. -/
theorem indicator_of_countsExactly (hc : c.IsProper) (hexact : c.CountsExactly r)
    (hcap : 0 < c.topology.linkBandwidth.fraction) (hr : 0 < r)
    (hm : (build c (.int r) maxOverrun).outcome = .ok m)
    (hσ : Satisfies σ (build c (.int r) maxOverrun).postings) (hl : l ∈ c.topology.links) :
    let total := ((c.flowsOver σ l.index).map (·.bandwidth.fraction)).sum
    (σ (.congested l.index) = 1 → c.topology.linkBandwidth.fraction < total) ∧
      (σ (.congested l.index) = 0 →
        total * r ≤ c.topology.linkBandwidth.fraction * (r + (c.flowsOver σ l.index).length)) := by
  rw [build_eq_build_measures] at hm hσ
  have h : IsAssembledOn _ c (.int r) maxOverrun _ m := isAssembledOn_of_build (by rw [← hm])
  exact (h.indicator_bounds hc hcap hr hexact.demands_eq hσ hl).2

end Indicator

namespace Corner

lemma fraction_linkBandwidth : context.topology.linkBandwidth.fraction = 64 :=
  Value.fraction_int 64

lemma fractions_traffic : context.flows.map (·.bandwidth.fraction) = [40, 30, 40] := by
  simp [context, traffic]

/-- Around the corner, doubles measure demands exactly. -/
lemma countsExactly : context.CountsExactly 128 := by
  refine ⟨_, _, _, rfl, rfl, rfl, ?_⟩
  rw [fraction_linkBandwidth, fractions_traffic, Reckoning.units_rationals (by norm_num)]
  have hfloors : [40, 30, 40].map (fun d : ℚ => ⌊d / 64 * ((128 : Int) : ℚ)⌋) = [80, 60, 80] := by
    norm_num
  rw [hfloors]
  rfl

end Corner

/-- Two flows share the link behind the corner, which cannot carry both of them. -/
theorem corner_indicator_tells_overload : ∃ (m : RoutingModel) (σ : RoutingVar → Int),
    let μ := Corner.context.measures (.int 128)
    let l := Corner.topology.links[2]
    let demand := fun f : Flow => f.bandwidth.fraction
    Corner.context.IsProper ∧ Corner.context.flows.map demand = [40, 30, 40] ∧
      μ.demands = Reckoning.rationals.units (Corner.context.flows.map demand) 64 (128 : Int) ∧
      (μ.build Corner.context (.int 128) (.int 20)).outcome = .ok m ∧
      Satisfies σ (μ.build Corner.context (.int 128) (.int 20)).postings ∧
      l ∈ Corner.topology.links ∧
      (σ (.congested l.index) = 0 ∨ σ (.congested l.index) = 1) ∧
      (σ (.congested l.index) = 1 →
        64 < ((Corner.context.flowsOver σ l.index).map demand).sum) ∧
      (σ (.congested l.index) = 0 →
        ((Corner.context.flowsOver σ l.index).map demand).sum * (128 : Int) ≤
          64 * ((128 : Int) + (Corner.context.flowsOver σ l.index).length)) := by
  obtain ⟨m, hm, -⟩ := Corner.exists_model
  rw [build_eq_build_measures] at hm
  have h : IsAssembledOn _ Corner.context (.int 128) (.int 20) _ m :=
    isAssembledOn_of_build (by rw [← hm])
  have hσ := h.satisfies_assignment Corner.isProper Corner.isRouting fun b _ =>
    Int.le_trans (by decide) (le_max_left _ _)
  have hμ := Corner.countsExactly.demands_eq
  rw [Corner.fraction_linkBandwidth] at hμ
  exact ⟨m, _, Corner.isProper, Corner.fractions_traffic, hμ, hm, hσ, List.getElem_mem _,
    indicator_tells_overload Corner.isProper (by norm_num) (by norm_num) hμ hm hσ
      (List.getElem_mem _)⟩

end NocRouting
