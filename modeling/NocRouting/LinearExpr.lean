/-!
# Linear expressions

A linear expression is a list of coefficients with variables, and a constant.  A variable may occur
several times; the terms keep their order and are never merged.

* `LinearExpr.value` is what an expression comes to under an assignment of the variables, and the
  lemmas below say that the operations act on it as those of the same name on numbers.
-/

namespace NocRouting

-- Empty sums are the `0` of core, whatever a reader of this module has loaded besides.
attribute [local instance (2000)] Zero.ofOfNat0

/-- A linear expression with coefficients in `κ` over the variables `ν`. -/
structure LinearExpr (κ ν : Type) where
  /-- The coefficients and their variables. -/
  terms : List (κ × ν)
  constant : κ

namespace LinearExpr

variable {κ ν : Type}

/-- The sum of some variables and a constant. -/
def sum [OfNat κ 1] (vars : List ν) (constant : κ) : LinearExpr κ ν :=
  ⟨vars.map fun v => (1, v), constant⟩

/-- The sum of some variables, each with its coefficient, and a constant.  If one list is longer,
the rest of it is ignored. -/
def weightedSum (vars : List ν) (coefficients : List κ) (constant : κ) : LinearExpr κ ν :=
  ⟨coefficients.zip vars, constant⟩

def const (constant : κ) : LinearExpr κ ν :=
  ⟨[], constant⟩

instance [Add κ] : Add (LinearExpr κ ν) where
  add a b := ⟨a.terms ++ b.terms, a.constant + b.constant⟩

instance [Neg κ] : Neg (LinearExpr κ ν) where
  neg a := ⟨a.terms.map fun (c, v) => (-c, v), -a.constant⟩

instance [Add κ] [Neg κ] : Sub (LinearExpr κ ν) where
  sub a b := a + -b

def shift [Add κ] (a : LinearExpr κ ν) (k : κ) : LinearExpr κ ν :=
  ⟨a.terms, a.constant + k⟩

def scale [Mul κ] (a : LinearExpr κ ν) (k : κ) : LinearExpr κ ν :=
  ⟨a.terms.map fun (c, v) => (c * k, v), a.constant * k⟩

/-- What a whole-numbered expression comes to under an assignment. -/
def value (σ : ν → Int) (a : LinearExpr Int ν) : Int :=
  (a.terms.map fun (c, v) => c * σ v).sum + a.constant

@[simp] theorem add_terms [Add κ] (a b : LinearExpr κ ν) :
    (a + b).terms = a.terms ++ b.terms := rfl

@[simp] theorem add_constant [Add κ] (a b : LinearExpr κ ν) :
    (a + b).constant = a.constant + b.constant := rfl

@[simp] theorem value_const (σ : ν → Int) (k : Int) :
    (const k : LinearExpr Int ν).value σ = k := by
  simp [const, value]

@[simp] theorem value_add (σ : ν → Int) (a b : LinearExpr Int ν) :
    (a + b).value σ = a.value σ + b.value σ := by
  simp only [value, add_terms, add_constant, List.map_append, List.sum_append]
  omega

@[simp] theorem value_neg (σ : ν → Int) (a : LinearExpr Int ν) :
    (-a).value σ = -a.value σ := by
  obtain ⟨terms, k⟩ := a
  show ((terms.map _).map _).sum + -k = -((terms.map _).sum + k)
  induction terms with
  | nil => simp
  | cons t rest ih =>
    simp only [List.map_cons, List.sum_cons, List.map_map] at ih ⊢
    rw [Int.neg_mul]
    omega

@[simp] theorem value_sub (σ : ν → Int) (a b : LinearExpr Int ν) :
    (a - b).value σ = a.value σ - b.value σ := by
  show (a + -b).value σ = _
  rw [value_add, value_neg]
  omega

@[simp] theorem value_shift (σ : ν → Int) (a : LinearExpr Int ν) (k : Int) :
    (a.shift k).value σ = a.value σ + k := by
  simp only [shift, value]
  omega

@[simp] theorem value_scale (σ : ν → Int) (a : LinearExpr Int ν) (k : Int) :
    (a.scale k).value σ = a.value σ * k := by
  obtain ⟨terms, c⟩ := a
  simp only [scale, value, List.map_map]
  induction terms with
  | nil => simp
  | cons t rest ih =>
    have h : t.1 * k * σ t.2 = t.1 * σ t.2 * k := Int.mul_right_comm ..
    simp only [List.map_cons, List.sum_cons, Function.comp] at ih ⊢
    rw [h, Int.add_assoc, ih, Int.add_assoc, Int.add_mul (t.1 * σ t.2)]

end LinearExpr

end NocRouting
