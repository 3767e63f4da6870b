import Mathlib.Logic.Relation
import NocRouting.Formula
import NocRouting.Proofs.Outcome
import NocRouting.Proofs.Whole

/-!
# What formulas come to

A tree is a formula made of whole numbers and linear expressions with whole coefficients, in which
no two linear expressions are multiplied with each other.  Under an assignment of the variables all
of its leaves are whole numbers, so it can be worked out by the arithmetic of whole numbers as well.
Evaluation works it out without an assignment, and the two agree: the linear expression that
evaluation ends with has the value that the arithmetic of whole numbers gives.

* `Formula.IsTree` says which formulas are trees, and `Formula.meaning` is what a tree comes to by
  the arithmetic of whole numbers.
* `Outcome.IsWorth` is the value of what evaluation ends with.  There is a lemma for every operation
  on outcomes.
* `Formula.TakesFromNumber` says that a linear expression is taken away from a number, which cannot
  be done.
* `eval_isWorth_meaning` says that evaluation agrees with the arithmetic of whole numbers, and that
  it fails for no other reason.
-/

namespace NocRouting

-- Empty sums are the `0` of core, whatever a reader of this module has loaded besides.
attribute [local instance (2000)] Zero.ofOfNat0

/-! ### Expressions with whole coefficients -/

namespace LinearExpr

/-- The coefficients and the constant stand for whole numbers. -/
structure IsWhole (e : LinearExpr Value Value) : Prop where
  coefficients : ∀ t ∈ e.terms, t.1.IsWhole
  constant : e.constant.IsWhole

/-- The linear expression with the whole numbers that the coefficients and the constant stand
for. -/
def whole (e : LinearExpr Value Value) : LinearExpr Int Value :=
  ⟨e.terms.map fun (c, v) => (c.whole, v), e.constant.whole⟩

lemma value_whole (σ : Value → Int) (e : LinearExpr Value Value) :
    e.whole.value σ = (e.terms.map fun (c, v) => c.whole * σ v).sum + e.constant.whole := by
  simp only [whole, value, List.map_map]
  rfl

/-- An expression with whole numbers for coefficients. -/
lemma IsWhole.of_int (ts : List (Value × Value)) (f : Value → Int) (n : Int) :
    IsWhole ⟨ts.map fun (c, v) => (.int (f c), v), .int n⟩ where
  coefficients := by
    rw [List.forall_mem_map]
    exact fun t _ => Value.isWhole_int (f t.1)
  constant := Value.isWhole_int n

lemma whole_append (e e' : LinearExpr Value Value) :
    whole ⟨e.terms ++ e'.terms, .int (e.constant.whole + e'.constant.whole)⟩ =
      e.whole + e'.whole := by
  rw [whole, List.map_append]
  rfl

lemma whole_opposite (e : LinearExpr Value Value) :
    whole ⟨e.terms.map fun (c, v) => (.int (-c.whole), v), .int (-e.constant.whole)⟩ =
      -e.whole := by
  simp only [whole, List.map_map]
  show _ = LinearExpr.mk _ _
  rw [List.map_map]
  rfl

lemma whole_multiple (e : LinearExpr Value Value) (v : Value) :
    whole ⟨e.terms.map fun (c, w) => (.int (c.whole * v.whole), w),
      .int (e.constant.whole * v.whole)⟩ = e.whole.scale v.whole := by
  simp only [whole, scale, List.map_map]
  rfl

end LinearExpr

namespace Outcome

variable {e e' : LinearExpr Value Value} {v : Value} {x y : Outcome} {m n : Int}

/-- The value of an outcome under an assignment: that of a number is the number, and that of a
linear expression the sum of its coefficients times their variables, and its constant. -/
inductive IsWorth (σ : Value → Int) : Outcome → Int → Prop
  | value {v : Value} (hv : v.IsWhole) : IsWorth σ (.value v) v.whole
  | expr {e : LinearExpr Value Value} (he : e.IsWhole) : IsWorth σ (.ofExpr e) (e.whole.value σ)

/-- The outcome is a linear expression. -/
def isExpr : Outcome → Bool
  | .value _ => false
  | .expr _ _ => true

/-! ### Operations on expressions -/

lemma plusValue_ofExpr (he : e.IsWhole) (hv : v.IsWhole) :
    (ofExpr e).plusValue v = .ok (ofExpr ⟨e.terms, .int (e.constant.whole + v.whole)⟩) := by
  simp only [ofExpr, plusValue, he.constant.plus_eq hv, Except.ok_bind]
  rfl

lemma add_ofExpr (he : e.IsWhole) (he' : e'.IsWhole) : (ofExpr e).add (ofExpr e') =
    .ok (ofExpr ⟨e.terms ++ e'.terms, .int (e.constant.whole + e'.constant.whole)⟩) := by
  simp only [ofExpr, add, he.constant.plus_eq he'.constant, Except.ok_bind, List.map_append]
  rfl

lemma negTerms_product {ts : List (Value × Value)} (hts : ∀ t ∈ ts, t.1.IsWhole) :
    negTerms (ts.map fun (c, v) => .product (.value c) v) =
      .ok (ts.map fun (c, v) => .product (.value (.int (-c.whole))) v) := by
  induction ts with
  | nil => rfl
  | cons t ts ih =>
    obtain ⟨ht, hrest⟩ := List.forall_mem_cons.1 hts
    simp only [List.map_cons, negTerms, neg, ht.opposite_eq, Except.ok_bind, ih hrest]
    rfl

lemma neg_ofExpr (he : e.IsWhole) : (ofExpr e).neg =
    .ok (ofExpr ⟨e.terms.map fun (c, v) => (.int (-c.whole), v), .int (-e.constant.whole)⟩) := by
  simp only [ofExpr, neg, he.constant.opposite_eq, Except.ok_bind, negTerms_product he.coefficients,
    List.map_map]
  rfl

lemma termsTimesValue_product (hv : v.IsWhole) {ts : List (Value × Value)}
    (hts : ∀ t ∈ ts, t.1.IsWhole) :
    termsTimesValue v (ts.map fun (c, v) => .product (.value c) v) =
      .ok (ts.map fun (c, w) => .product (.value (.int (c.whole * v.whole))) w) := by
  induction ts with
  | nil => rfl
  | cons t ts ih =>
    obtain ⟨ht, hrest⟩ := List.forall_mem_cons.1 hts
    simp only [List.map_cons, termsTimesValue, timesValue, ht.times_eq hv, Except.ok_bind, ih hrest]
    rfl

lemma timesValue_ofExpr (he : e.IsWhole) (hv : v.IsWhole) : timesValue v (ofExpr e) =
    .ok (ofExpr ⟨e.terms.map fun (c, w) => (.int (c.whole * v.whole), w),
      .int (e.constant.whole * v.whole)⟩) := by
  simp only [ofExpr, timesValue, he.constant.times_eq hv, Except.ok_bind,
    termsTimesValue_product hv he.coefficients, List.map_map]
  rfl

/-- Multiplying terms by a number is the same on either side. -/
lemma termsTimes_value (ts : List (Value × Value)) :
    termsTimes (.value v) (ts.map fun (c, w) => .product (.value c) w) =
      termsTimesValue v (ts.map fun (c, w) => .product (.value c) w) := by
  induction ts with
  | nil => rfl
  | cons t ts ih => simp only [List.map_cons, termsTimes, termsTimesValue, times, timesValue, ih]

lemma ofExpr_mul_value : (ofExpr e).mul (.value v) = timesValue v (ofExpr e) := by
  simp only [mul, ofExpr, times, timesValue, termsTimes_value]

/-! ### Operations and values -/

namespace IsWorth

variable {σ : Value → Int}

lemma int (n : Int) : IsWorth σ (.value (.int n)) n :=
  .value (Value.isWhole_int n)

lemma plusValue (he : e.IsWhole) (hv : v.IsWhole) :
    ∃ z, (ofExpr e).plusValue v = .ok z ∧ z.IsWorth σ (e.whole.value σ + v.whole) := by
  refine ⟨_, plusValue_ofExpr he hv, ?_⟩
  rw [← LinearExpr.value_shift]
  exact .expr ⟨he.coefficients, rfl⟩

lemma timesValue (he : e.IsWhole) (hv : v.IsWhole) :
    ∃ z, Outcome.timesValue v (ofExpr e) = .ok z ∧ z.IsWorth σ (e.whole.value σ * v.whole) := by
  refine ⟨_, timesValue_ofExpr he hv, ?_⟩
  rw [← LinearExpr.value_scale, ← LinearExpr.whole_multiple]
  exact .expr (.of_int e.terms (fun c => c.whole * v.whole) _)

lemma add (hx : x.IsWorth σ m) (hy : y.IsWorth σ n) :
    ∃ z, x.add y = .ok z ∧ z.IsWorth σ (m + n) := by
  cases hx with
  | value hv =>
    cases hy with
    | value hw => exact ⟨_, by rw [Outcome.add, hv.plus_eq hw]; rfl, .int _⟩
    | expr he =>
      rw [Int.add_comm]
      exact plusValue he hv
  | expr he =>
    cases hy with
    | value hv => exact plusValue he hv
    | expr he' =>
      refine ⟨_, add_ofExpr he he', ?_⟩
      rw [← LinearExpr.value_add, ← LinearExpr.whole_append]
      exact .expr ⟨List.forall_mem_append.2 ⟨he.coefficients, he'.coefficients⟩, rfl⟩

lemma neg (hx : x.IsWorth σ m) : ∃ z, x.neg = .ok z ∧ z.IsWorth σ (-m) := by
  cases hx with
  | value hv => exact ⟨_, by rw [Outcome.neg, hv.opposite_eq]; rfl, .int _⟩
  | @expr e he =>
    refine ⟨_, neg_ofExpr he, ?_⟩
    rw [← LinearExpr.value_neg, ← LinearExpr.whole_opposite]
    exact .expr (.of_int e.terms (fun c => -c.whole) _)

/-- A linear expression cannot be taken away from a number, everything else can. -/
lemma sub (hx : x.IsWorth σ m) (hy : y.IsWorth σ n) :
    (∃ z, x.sub y = .ok z ∧ z.IsWorth σ (m - n)) ∨
      x.isExpr = false ∧ y.isExpr = true ∧ x.sub y = .error .mismatch := by
  cases hx with
  | value hv =>
    cases hy with
    | value hw => exact .inl ⟨_, by rw [Outcome.sub, hv.minus_eq hw]; rfl, .int _⟩
    | expr he => exact .inr ⟨rfl, rfl, rfl⟩
  | expr he =>
    left
    obtain ⟨y', hy', hworth⟩ := hy.neg
    obtain ⟨z, hz, hz'⟩ := (IsWorth.expr he).add hworth
    rw [Int.sub_eq_add_neg]
    exact ⟨z, by rw [← hz, ← Except.ok_bind (f := (ofExpr _).add), ← hy']; rfl, hz'⟩

/-- Unless two linear expressions are multiplied with each other, a product is one of numbers. -/
lemma mul (hx : x.IsWorth σ m) (hy : y.IsWorth σ n) (h : x.isExpr = false ∨ y.isExpr = false) :
    ∃ z, x.mul y = .ok z ∧ z.IsWorth σ (m * n) := by
  cases hx with
  | value hv =>
    cases hy with
    | value hw => exact ⟨_, by rw [Outcome.mul, Outcome.times, hv.times_eq hw]; rfl, .int _⟩
    | expr he =>
      rw [Int.mul_comm]
      exact timesValue he hv
  | expr he =>
    cases hy with
    | value hv =>
      rw [ofExpr_mul_value]
      exact timesValue he hv
    | expr he' => simp [isExpr, ofExpr] at h

end IsWorth

end Outcome

/-! ### Trees -/

namespace Formula

/-- What a term comes to, which is given by its coefficient and its variable. -/
def termMeaning (σ : Value → Int) : List Value → Int
  | [c, v] => c.whole * σ v
  | _ => 0

mutual

/-- What a formula comes to under an assignment, by the arithmetic of whole numbers. -/
def meaning (σ : Value → Int) : Formula → Int
  | .value v => v.whole
  | .terms ts k => (ts.map (termMeaning σ)).sum + k.whole
  | .sum vs k => (vs.map σ).sum + k.whole
  | .weightedSum vs cs k => ((cs.zip vs).map fun (c, v) => c.whole * σ v).sum + k.whole
  | .neg a => -meaning σ a
  | .total items => totalMeaning σ items
  | .add a b => meaning σ a + meaning σ b
  | .sub a b => meaning σ a - meaning σ b
  | .mul a b => meaning σ a * meaning σ b
  | .equal a b => if meaning σ a = meaning σ b then 1 else 0

/-- What some formulas come to in all. -/
def totalMeaning (σ : Value → Int) : List Formula → Int
  | [] => 0
  | f :: rest => meaning σ f + totalMeaning σ rest

end

/-- The formula comes to a linear expression. -/
def IsExpr (f : Formula) : Prop :=
  ∃ x, f.eval = .ok x ∧ x.isExpr = true

/-- The formula comes to a number. -/
def IsNumber (f : Formula) : Prop :=
  ∃ x, f.eval = .ok x ∧ x.isExpr = false

/-- A formula of whole numbers and linear expressions with whole coefficients.  At most one factor
of a product is a linear expression, and there are no equations. -/
inductive IsTree : Formula → Prop
  | value {v : Value} (hv : v.IsWhole) : IsTree (.value v)
  | terms {e : LinearExpr Value Value} (he : e.IsWhole) :
    IsTree (.terms (e.terms.map fun (c, v) => [c, v]) e.constant)
  | sum {vs : List Value} {k : Value} (hk : k.IsWhole) : IsTree (.sum vs k)
  | weightedSum {vs cs : List Value} {k : Value} (hcs : ∀ c ∈ cs, c.IsWhole) (hk : k.IsWhole) :
    IsTree (.weightedSum vs cs k)
  | neg {a : Formula} (ha : IsTree a) : IsTree (.neg a)
  | total {items : List Formula} (h : ∀ f ∈ items, IsTree f) : IsTree (.total items)
  | add {a b : Formula} (ha : IsTree a) (hb : IsTree b) : IsTree (.add a b)
  | sub {a b : Formula} (ha : IsTree a) (hb : IsTree b) : IsTree (.sub a b)
  | mul {a b : Formula} (ha : IsTree a) (hb : IsTree b) (h : ¬ (a.IsExpr ∧ b.IsExpr)) :
    IsTree (.mul a b)

/-! ### Parts of formulas -/

/-- The formulas that a formula is put together from. -/
def operands : Formula → List Formula
  | .neg a => [a]
  | .total items => items
  | .add a b | .sub a b | .mul a b | .equal a b => [a, b]
  | _ => []

/-- The first formula stands somewhere in the second one, or is it. -/
def IsPart : Formula → Formula → Prop :=
  Relation.ReflTransGen fun a f => a ∈ f.operands

/-- Somewhere in the formula, a linear expression is taken away from a number. -/
def TakesFromNumber (f : Formula) : Prop :=
  ∃ a b, IsPart (.sub a b) f ∧ a.IsNumber ∧ b.IsExpr

/-- Evaluation ends with what the formula means, or fails because a linear expression is taken away
from a number. -/
def Agrees (σ : Value → Int) (f : Formula) : Prop :=
  (∃ x, f.eval = .ok x ∧ x.IsWorth σ (f.meaning σ)) ∨
    (∃ fault, f.eval = .error fault) ∧ f.TakesFromNumber

section Parts

variable {σ : Value → Int} {a b f : Formula} {items : List Formula}

lemma TakesFromNumber.of_operand (h : a.TakesFromNumber) (ha : a ∈ f.operands) :
    f.TakesFromNumber := by
  obtain ⟨b, c, hpart, hbc⟩ := h
  exact ⟨b, c, hpart.tail ha, hbc⟩

/-- A formula that is a linear expression agrees. -/
lemma agrees_of_ofExpr {e : LinearExpr Value Value} (he : e.IsWhole)
    (heval : f.eval = .ok (.ofExpr e))
    (hmeaning : f.meaning σ = (e.terms.map fun (c, v) => c.whole * σ v).sum + e.constant.whole) :
    f.Agrees σ := by
  refine .inl ⟨_, heval, ?_⟩
  rw [hmeaning, ← LinearExpr.value_whole]
  exact .expr he

/-- A formula with two operands agrees if both of them do, and the operation on what they come
to. -/
lemma agrees_of_operands {op : Outcome → Outcome → Except Fault Outcome}
    (hf : f.eval = a.eval >>= fun x => b.eval >>= op x) (hab : f.operands = [a, b])
    (ha : a.Agrees σ) (hb : b.Agrees σ)
    (hop : ∀ x y, a.eval = .ok x → b.eval = .ok y → x.IsWorth σ (a.meaning σ) →
      y.IsWorth σ (b.meaning σ) → (∃ z, op x y = .ok z ∧ z.IsWorth σ (f.meaning σ)) ∨
        (∃ fault, op x y = .error fault) ∧ f.TakesFromNumber) : f.Agrees σ := by
  rcases ha with ⟨x, hx, hxworth⟩ | ⟨⟨fault, hfault⟩, htakes⟩
  · rcases hb with ⟨y, hy, hyworth⟩ | ⟨⟨fault, hfault⟩, htakes⟩
    · rw [Agrees, hf, hx, Except.ok_bind, hy, Except.ok_bind]
      exact hop x y hx hy hxworth hyworth
    · refine .inr ⟨⟨fault, ?_⟩, htakes.of_operand (by simp [hab])⟩
      rw [hf, hx, Except.ok_bind, hfault, Except.error_bind]
  · refine .inr ⟨⟨fault, ?_⟩, htakes.of_operand (by simp [hab])⟩
    rw [hf, hfault, Except.error_bind]

/-- Formulas that agree can be added up one after the other. -/
lemma evalTotal_or (h : ∀ f ∈ items, f.Agrees σ) {x : Outcome} {m : Int} (hx : x.IsWorth σ m) :
    (∃ y, evalTotal x items = .ok y ∧ y.IsWorth σ (m + totalMeaning σ items)) ∨
      (∃ fault, evalTotal x items = .error fault) ∧ ∃ f ∈ items, f.TakesFromNumber := by
  induction items generalizing x m with
  | nil =>
    rw [totalMeaning, Int.add_zero]
    exact .inl ⟨x, rfl, hx⟩
  | cons f items ih =>
    obtain ⟨hf, hitems⟩ := List.forall_mem_cons.1 h
    rcases hf with ⟨y, hy, hyworth⟩ | ⟨⟨fault, hfault⟩, htakes⟩
    · obtain ⟨z, hz, hzworth⟩ := hx.add hyworth
      rw [evalTotal, hy, Except.ok_bind, hz, Except.ok_bind, totalMeaning, ← Int.add_assoc]
      refine (ih hitems hzworth).imp_right fun ⟨hfault, g, hg, htakes⟩ => ?_
      exact ⟨hfault, g, List.mem_cons_of_mem f hg, htakes⟩
    · refine .inr ⟨⟨fault, ?_⟩, f, List.mem_cons_self, htakes⟩
      rw [evalTotal, hfault, Except.error_bind]

/-- Every tree agrees. -/
lemma IsTree.agrees (hf : f.IsTree) (σ : Value → Int) : f.Agrees σ := by
  induction hf with
  | value hv => exact .inl ⟨_, rfl, .value hv⟩
  | @terms e he =>
    refine agrees_of_ofExpr he ?_ ?_
    · rw [eval, List.map_map]
      rfl
    · rw [meaning, List.map_map]
      rfl
  | @sum vs k hk =>
    refine agrees_of_ofExpr (e := ⟨vs.map (.int 1, ·), k⟩) ⟨by simp, hk⟩ rfl ?_
    simp only [meaning, List.map_map, Function.comp_def, Value.whole_int, Int.one_mul]
  | weightedSum hcs hk =>
    exact agrees_of_ofExpr ⟨fun t ht => hcs t.1 (List.of_mem_zip ht).1, hk⟩ rfl rfl
  | @neg a ha ih =>
    rcases ih with ⟨x, hx, hworth⟩ | ⟨⟨fault, hfault⟩, htakes⟩
    · obtain ⟨y, hy, hyworth⟩ := hworth.neg
      refine .inl ⟨y, ?_, hyworth⟩
      rw [eval, hx, Except.ok_bind, hy]
    · refine .inr ⟨⟨fault, ?_⟩, htakes.of_operand (by simp [operands])⟩
      rw [eval, hfault, Except.error_bind]
  | @total items h ih =>
    rcases evalTotal_or ih (.int 0) with ⟨x, hx, hworth⟩ | ⟨hfault, f, hf, htakes⟩
    · rw [Int.zero_add] at hworth
      exact .inl ⟨x, hx, hworth⟩
    · exact .inr ⟨hfault, htakes.of_operand hf⟩
  | add ha hb iha ihb =>
    refine agrees_of_operands rfl rfl iha ihb fun x y _ _ hx hy => .inl ?_
    exact hx.add hy
  | @sub a b ha hb iha ihb =>
    refine agrees_of_operands rfl rfl iha ihb fun x y hax hby hx hy => ?_
    refine (hx.sub hy).imp_right fun ⟨hnumber, hexpr, hfault⟩ => ⟨⟨_, hfault⟩, ?_⟩
    exact ⟨a, b, .refl, ⟨x, hax, hnumber⟩, ⟨y, hby, hexpr⟩⟩
  | mul ha hb h iha ihb =>
    refine agrees_of_operands rfl rfl iha ihb fun x y hax hby hx hy => .inl (hx.mul hy ?_)
    by_contra hboth
    simp only [not_or, Bool.not_eq_false] at hboth
    exact h ⟨⟨x, hax, hboth.1⟩, ⟨y, hby, hboth.2⟩⟩

/-! ### Failures -/

lemma exists_evalTotal_eq_error (ha : a ∈ items) (h : ∃ fault, a.eval = .error fault)
    (x : Outcome) : ∃ fault, evalTotal x items = .error fault := by
  induction items generalizing x with
  | nil => cases ha
  | cons f items ih =>
    rw [evalTotal]
    cases hf : f.eval with
    | error fault => exact ⟨fault, rfl⟩
    | ok y =>
      rw [Except.ok_bind]
      cases hy : x.add y with
      | error fault => exact ⟨fault, rfl⟩
      | ok z =>
        refine ih ((List.mem_cons.1 ha).resolve_left ?_) z
        rintro rfl
        simp [hf] at h

/-- Evaluation works out all operands, so it fails if one of them does. -/
lemma exists_eval_eq_error (ha : a ∈ f.operands) (h : ∃ fault, a.eval = .error fault) :
    ∃ fault, f.eval = .error fault := by
  have hboth : ∀ {b c : Formula} {op : Outcome → Outcome → Except Fault Outcome}, a ∈ [b, c] →
      ∃ fault, (b.eval >>= fun x => c.eval >>= op x) = .error fault := by
    intro b c op hbc
    obtain ⟨fault, hfault⟩ := h
    cases hb : b.eval with
    | error fault => exact ⟨fault, rfl⟩
    | ok x =>
      obtain rfl : a = c := by
        refine (List.mem_pair.1 hbc).resolve_left ?_
        rintro rfl
        simp [hb] at hfault
      exact ⟨fault, by rw [Except.ok_bind, hfault, Except.error_bind]⟩
  cases f with
  | neg b =>
    obtain rfl := List.mem_singleton.1 ha
    obtain ⟨fault, hfault⟩ := h
    exact ⟨fault, by rw [eval, hfault, Except.error_bind]⟩
  | total items => exact exists_evalTotal_eq_error ha h _
  | add b c => exact hboth ha
  | sub b c => exact hboth ha
  | mul b c => exact hboth ha
  | equal b c => exact hboth ha
  | _ => cases ha

lemma TakesFromNumber.exists_eval_eq_error (h : f.TakesFromNumber) :
    ∃ fault, f.eval = .error fault := by
  obtain ⟨a, b, hpart, ⟨x, hx, hnumber⟩, ⟨y, hy, hexpr⟩⟩ := h
  induction hpart with
  | refl =>
    refine ⟨.mismatch, ?_⟩
    rw [eval, hx, Except.ok_bind, hy, Except.ok_bind]
    cases x with
    | value v =>
      cases y with
      | value w => cases hexpr
      | expr terms constant => rfl
    | expr terms constant => cases hnumber
  | tail _ hoperand ih => exact Formula.exists_eval_eq_error hoperand ih

end Parts

end Formula

/-- Evaluation of a tree agrees with the arithmetic of whole numbers: what it ends with has the
value, under every assignment, that the leaves of the tree come to when they are combined as whole
numbers.  It fails exactly if a linear expression is taken away from a number. -/
theorem eval_isWorth_meaning {f : Formula} (hf : f.IsTree) :
    (∀ x, f.eval = .ok x → ∀ σ, x.IsWorth σ (f.meaning σ)) ∧
    ((∃ fault, f.eval = .error fault) ↔ f.TakesFromNumber) := by
  constructor
  · intro x hx σ
    rcases hf.agrees σ with ⟨y, hy, hworth⟩ | ⟨⟨fault, hfault⟩, -⟩
    · obtain rfl := Except.ok.inj (hx.symm.trans hy)
      exact hworth
    · cases hx.symm.trans hfault
  · refine ⟨?_, Formula.TakesFromNumber.exists_eval_eq_error⟩
    rintro ⟨fault, hfault⟩
    rcases hf.agrees fun _ => 0 with ⟨y, hy, -⟩ | ⟨-, htakes⟩
    · cases hfault.symm.trans hy
    · exact htakes

namespace Formula

/-- A sum of three formulas in which both variables occur several times, and in which numbers stand
on both sides. -/
def mixed : Formula :=
  .total [.sum [.text "x", .text "y"] (.int 3),
    .mul (.value (.int 2)) (.weightedSum [.text "x", .text "x"] [.int 5, .int (-1), .int 7] (.int 0)),
    .sub (.terms [[.int 3, .text "y"]] (.bool true)) (.value (.int 4))]

lemma isTree_mixed : mixed.IsTree := by
  refine .total fun f hf => ?_
  simp only [List.mem_cons, List.not_mem_nil, or_false] at hf
  obtain rfl | rfl | rfl := hf
  · exact .sum rfl
  · refine .mul (.value rfl) (.weightedSum ?_ rfl) ?_
    · simp
    · rintro ⟨⟨x, hx, hexpr⟩, -⟩
      cases hx
      cases hexpr
  · exact .sub (.terms (e := ⟨[(.int 3, .text "y")], .bool true⟩) ⟨by simp, rfl⟩) (.value rfl)

end Formula

/-- Nothing is taken away from a number, so evaluation ends with a linear expression, which has the
right value whatever the variables are. -/
theorem mixed_eval_isWorth_meaning : Formula.mixed.IsTree ∧ ¬ Formula.mixed.TakesFromNumber ∧
    ∃ x, Formula.mixed.eval = .ok x ∧ ∀ σ, x.IsWorth σ (Formula.mixed.meaning σ) := by
  have htree := eval_isWorth_meaning Formula.isTree_mixed
  obtain ⟨x, hx⟩ : ∃ x, Formula.mixed.eval = .ok x := ⟨_, rfl⟩
  refine ⟨Formula.isTree_mixed, fun htakes => ?_, x, hx, htree.1 x hx⟩
  obtain ⟨fault, hfault⟩ := htree.2.2 htakes
  cases hx.symm.trans hfault

end NocRouting
