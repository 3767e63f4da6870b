import NocRouting.Constraint.Basic

/-!
# What constraints mean

An assignment gives every variable a whole number; a boolean variable is true where it is not zero.
`Constraint.holds` says when an assignment meets a constraint, and `Posting.admits` when it meets
all that a posting demands, the domain of a new variable included.
-/

namespace NocRouting

variable {ν : Type}

namespace Literal

def holds (σ : ν → Int) (l : Literal ν) : Bool :=
  (σ l.var != 0) != l.isNegated

/-- The literal as a number under an assignment: the value of its variable, or what that lacks to
one. -/
def value (σ : ν → Int) (l : Literal ν) : Int :=
  if l.isNegated then 1 - σ l.var else σ l.var

def countTrue (σ : ν → Int) (literals : List (Literal ν)) : Nat :=
  literals.countP (holds σ)

@[simp] theorem holds_of (σ : ν → Int) (v : ν) : (Literal.of v).holds σ = (σ v != 0) := by
  simp [of, holds]

@[simp] theorem value_of (σ : ν → Int) (v : ν) : (Literal.of v).value σ = σ v := rfl

@[simp] theorem value_negated (σ : ν → Int) (l : Literal ν) :
    l.negated.value σ = 1 - l.value σ := by
  obtain ⟨v, _ | _⟩ := l
  · rfl
  · show σ v = 1 - (1 - σ v)
    omega

@[simp] theorem holds_negated (σ : ν → Int) (l : Literal ν) :
    l.negated.holds σ = !l.holds σ := by
  cases h : l.isNegated <;> simp [negated, holds, h]

end Literal

namespace Circuit

def used (σ : ν → Int) (arcs : List (Arc ν)) : List (Arc ν) :=
  arcs.filter (·.literal.holds σ)

def nodes (arcs : List (Arc ν)) : List Int :=
  arcs.flatMap fun a => [a.source, a.sink]

/-- The nodes that are visited by following arcs from a node, for a number of steps. -/
def walk (arcs : List (Arc ν)) : Nat → Int → List Int
  | 0, node => [node]
  | more + 1, node =>
    node :: match arcs.find? (·.source == node) with
      | some a => walk arcs more a.sink
      | none => []

/-- The arcs, all of them in use, lead once into and once out of every node, and following those
that are not loops from any one node visits every node without a loop. -/
def isSingle (nodes : List Int) (arcs : List (Arc ν)) : Bool :=
  let proper := arcs.filter fun a => a.source != a.sink
  nodes.all (fun n => arcs.countP (·.source == n) == 1 && arcs.countP (·.sink == n) == 1) &&
    proper.all fun a => proper.all fun b => (walk proper proper.length a.source).contains b.source

end Circuit

/-- The value lies between two bounds, either of which may be missing.  A bound that is no number
is never met. -/
def isBetween (lower upper : Option Value) (value : Int) : Bool :=
  lower.all (·.number?.any (·.le (.int value))) &&
    upper.all (·.number?.any ((Number.int value).le ·))

def Constraint.holds (σ : ν → Int) : Constraint ν → Bool
  | .boolOr literals => 1 ≤ Literal.countTrue σ literals
  | .atMostOne literals => Literal.countTrue σ literals ≤ 1
  | .exactlyOne literals => Literal.countTrue σ literals == 1
  | .linear e lower upper enforceIf =>
    !enforceIf.all (·.holds σ) || isBetween lower upper (e.value σ)
  | .maximum target exprs =>
    exprs.all (·.value σ ≤ target.value σ) && exprs.any (·.value σ == target.value σ)
  | .circuit arcs => Circuit.isSingle (Circuit.nodes arcs) (Circuit.used σ arcs)

def Posting.admits (σ : ν → Int) : Posting ν → Bool
  | .newBool v => σ v == 0 || σ v == 1
  | .newInt lower upper v => isBetween (some lower) (some upper) (σ v)
  | .constrain c => c.holds σ
  | _ => true

def Satisfies (σ : ν → Int) (postings : List (Posting ν)) : Prop :=
  ∀ p ∈ postings, p.admits σ = true

instance (σ : ν → Int) (postings : List (Posting ν)) : Decidable (Satisfies σ postings) :=
  inferInstanceAs (Decidable (∀ p ∈ postings, p.admits σ = true))

def lastObjective? (postings : List (Posting ν)) : Option (LinearExpr Int ν) :=
  postings.foldl (fun last p =>
    match p with
    | .minimize e => some e
    | _ => last) none

theorem isBetween_int (m n value : Int) :
    isBetween (some (.int m)) (some (.int n)) value = decide (m ≤ value ∧ value ≤ n) := by
  simp [isBetween, Bool.decide_and]

/-- What is posted later adds to what was posted before. -/
theorem satisfies_append {σ : ν → Int} {ps qs : List (Posting ν)} :
    Satisfies σ (ps ++ qs) ↔ Satisfies σ ps ∧ Satisfies σ qs :=
  List.forall_mem_append

end NocRouting
