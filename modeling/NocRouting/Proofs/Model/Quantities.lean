import Mathlib.Data.Rat.Floor
import NocRouting.Proofs.Model.Measures

/-!
# Measures in any arithmetic

Measures are worked out in two short formulas.  A program evaluates them on numbers as it has them,
which are rounded; what they are meant to say, they say of exact fractions.  So the formulas are
stated for any arithmetic.

* `Reckoning.units` and `Reckoning.limit` are the formulas.
* `Context.demands_measures` and `Context.budget_measures` say that the measures of a context are
  those of its figures in the arithmetic of numbers.
* `Reckoning.units_rationals` and `Reckoning.limit_rationals` say what they are in exact arithmetic.
* `Number.fraction` is the exact value of a figure.  `Context.CountsExactly` and
  `Context.BudgetsExactly` say that rounding makes no difference to the measures of a context.
-/

namespace NocRouting

/-- An arithmetic that measures can be worked out in. -/
structure Reckoning (α : Type) where
  plus : α → α → Except Fault α
  minus : α → α → Except Fault α
  times : α → α → Except Fault α
  quotient : α → α → Except Fault α
  /-- The greatest whole number which is at most a figure. -/
  floor : α → Except Fault Int
  isZero : α → Bool
  isPositive : α → Bool

namespace Reckoning

section Formulas

variable {α : Type} (A : Reckoning α)

/-- Demands in units of the capacity divided by the resolution, rounded down. -/
def units (demands : List α) (capacity resolution : α) : Except Fault (List Int) :=
  demands.mapM fun d => do A.floor (← A.times (← A.quotient d capacity) resolution)

/-- The greatest number of links that can be taken within a latency. -/
def hops (link router latency : α) : Except Fault Int := do
  let hop ← A.plus link router
  if A.isZero hop then throw (.configuration .freeHops)
  A.floor (← A.quotient (← A.minus latency router) hop)

/-- The number of links that a flow can take, if its latency is limited. -/
def limit (link router : α) : Option α → Except Fault (Option Int)
  | none => return none
  | some latency =>
    if A.isPositive latency then some <$> A.hops link router latency else return none

end Formulas

/-! ### Numbers -/

/-- The arithmetic of numbers, where quotients are doubles. -/
def numbers : Reckoning Number where
  plus := Number.meeting (· + ·)
  minus := Number.meeting (· - ·)
  times := Number.meeting (· * ·)
  quotient a b :=
    match a.quotient? b with
    | some q => .ok (.float q)
    | none => .error .tooLarge
  floor := Number.floor
  isZero := Number.isZero
  isPositive a := (Number.int 0).lt a

/-- What counts as a double counts as a number. -/
lemma exists_number {v : Value} {x : Float} (h : v.asFloat = .ok x) :
    ∃ n, v.number? = some n ∧ n.asFloat = .ok x := by
  obtain ⟨n, hn, hx⟩ := Except.bind_eq_ok.1 h
  cases hv : v.number? with
  | none => simp [Value.asNumber, hv] at hn
  | some n' =>
    obtain rfl : n' = n := by simpa [Value.asNumber, hv] using hn
    exact ⟨n', rfl, hx⟩

/-- Demands are measured in the arithmetic of numbers, all figures being doubles. -/
lemma rescale_eq_units {demands : List Value} {ds : List Float} {capacity resolution : Value}
    {x r : Float} (hd : demands.mapM (·.asFloat) = .ok ds) (hx : capacity.asFloat = .ok x)
    (hr : resolution.asFloat = .ok r) :
    rescale demands capacity resolution =
      numbers.units (ds.map .float) (.float x) (.float r) := by
  obtain ⟨c, hc, hcx⟩ := exists_number hx
  obtain ⟨n, hn, hnr⟩ := exists_number hr
  unfold rescale
  split
  · next hempty =>
    obtain rfl := List.isEmpty_iff.1 hempty
    rw [List.mapM_nil, Except.pure_eq_ok] at hd
    rw [← hd]
    rfl
  · rw [hd, hc, hn, units, List.mapM_map]
    simp only [Except.ok_bind, hcx, hnr]
    rfl

/-- Budgets are worked out in the arithmetic of numbers. -/
lemma hopBudget_eq_hops {link router latency : Value} {a b n : Number}
    (hl : link.asNumber = .ok a) (hr : router.asNumber = .ok b) (hn : latency.asNumber = .ok n) :
    hopBudget link router latency = numbers.hops a b n := by
  simp only [hopBudget, hl, hr, hn, hops, numbers, Except.ok_bind]
  cases Number.meeting (· + ·) a b with
  | error fault => rfl
  | ok hop =>
    cases hzero : hop.isZero with
    | true =>
      simp only [Except.ok_bind, hzero, if_true]
      rfl
    | false =>
      simp only [Except.ok_bind, hzero, Bool.false_eq_true, if_false]
      cases Number.meeting (· - ·) n b with
      | error fault => rfl
      | ok left =>
        simp only [Except.ok_bind]
        cases left.quotient? hop <;> rfl

/-! ### Fractions -/

/-- The arithmetic of fractions, in which nothing is rounded. -/
def rationals : Reckoning ℚ where
  plus a b := .ok (a + b)
  minus a b := .ok (a - b)
  times a b := .ok (a * b)
  quotient a b := if b = 0 then .error .zeroDivisor else .ok (a / b)
  floor a := .ok ⌊a⌋
  isZero a := decide (a = 0)
  isPositive a := decide (0 < a)

lemma units_rationals {demands : List ℚ} {capacity resolution : ℚ} (h : capacity ≠ 0) :
    rationals.units demands capacity resolution =
      .ok (demands.map fun d => ⌊d / capacity * resolution⌋) := by
  rw [units, Except.mapM_eq_ok, List.forall₂_map_right_iff, List.forall₂_same]
  intro d _
  simp only [rationals, h, if_false, Except.ok_bind]

lemma limit_rationals {link router latency : ℚ} (hhop : link + router ≠ 0) (h : 0 < latency) :
    rationals.limit link router (some latency) =
      .ok (some ⌊(latency - router) / (link + router)⌋) := by
  simp [limit, hops, rationals, h, hhop, Except.ok_bind]

end Reckoning

/-! ### Contexts -/

section Context

variable {c : Context} {resolution : Value}

/-- The demands of a context are measured in the arithmetic of numbers. -/
theorem Context.demands_measures {ds : List Float} {x r : Float}
    (hd : (c.flows.map (·.bandwidth)).mapM (·.asFloat) = .ok ds)
    (hx : c.topology.linkBandwidth.asFloat = .ok x) (hr : resolution.asFloat = .ok r) :
    (c.measures resolution).demands =
      Reckoning.numbers.units (ds.map .float) (.float x) (.float r) :=
  Reckoning.rescale_eq_units hd hx hr

/-- The budgets of a context are worked out in the arithmetic of numbers. -/
theorem Context.budget_measures {f : Flow} {a b n : Number}
    (hl : c.topology.linkLatency.asNumber = .ok a)
    (hr : c.topology.routerLatency.asNumber = .ok b) (hn : f.maxLatency.asNumber = .ok n) :
    (c.measures resolution).budget f = Reckoning.numbers.limit a b (some n) := by
  have hconstrained : f.isConstrained = .ok ((Number.int 0).lt n) := by
    unfold Flow.isConstrained
    split
    · next hnull => simp [hnull, Value.asNumber, Value.number?] at hn
    · rw [hn]
      rfl
  simp only [measures, hconstrained, Reckoning.limit, Except.ok_bind,
    Reckoning.hopBudget_eq_hops hl hr hn]
  rfl

end Context

/-! ### Exact figures -/

/-- The exact value of a number, which is 0 if it is not finite. -/
def Number.fraction (n : Number) : ℚ :=
  match n.exact with
  | .finite d => d.toRat
  | _ => 0

@[simp] lemma Number.fraction_int (n : Int) : (Number.int n).fraction = n :=
  Dyadic.toRat_intCast n

/-- The exact value of a figure, which is 0 if it is no number. -/
def Value.fraction (v : Value) : ℚ :=
  (v.number?.map Number.fraction).getD 0

@[simp] lemma Value.fraction_int (n : Int) : (Value.int n).fraction = n :=
  Number.fraction_int n

namespace Context

/-- Doubles come to the same units for the demands of a context as fractions do. -/
def CountsExactly (c : Context) (r : Int) : Prop :=
  ∃ ds x y, (c.flows.map (·.bandwidth)).mapM (·.asFloat) = .ok ds ∧
    c.topology.linkBandwidth.asFloat = .ok x ∧ (Value.int r).asFloat = .ok y ∧
    Reckoning.numbers.units (ds.map .float) (.float x) (.float y) =
      Reckoning.rationals.units (c.flows.map (·.bandwidth.fraction))
        c.topology.linkBandwidth.fraction r

/-- Numbers come to the same budget for a flow as fractions do. -/
def BudgetsExactly (c : Context) (f : Flow) : Prop :=
  ∃ a b n, c.topology.linkLatency.asNumber = .ok a ∧ c.topology.routerLatency.asNumber = .ok b ∧
    f.maxLatency.asNumber = .ok n ∧
    Reckoning.numbers.limit a b (some n) =
      Reckoning.rationals.limit c.topology.linkLatency.fraction c.topology.routerLatency.fraction
        (some f.maxLatency.fraction)

variable {c : Context}

lemma CountsExactly.demands_eq {r : Int} (h : c.CountsExactly r) :
    (c.measures (.int r)).demands =
      Reckoning.rationals.units (c.flows.map (·.bandwidth.fraction))
        c.topology.linkBandwidth.fraction r := by
  obtain ⟨ds, x, y, hd, hx, hy, hunits⟩ := h
  rw [demands_measures hd hx hy, hunits]

lemma BudgetsExactly.budget_eq {f : Flow} (h : c.BudgetsExactly f) (resolution : Value) :
    (c.measures resolution).budget f =
      Reckoning.rationals.limit c.topology.linkLatency.fraction c.topology.routerLatency.fraction
        (some f.maxLatency.fraction) := by
  obtain ⟨a, b, n, ha, hb, hn, hlimit⟩ := h
  rw [budget_measures ha hb hn, hlimit]

end Context

end NocRouting
