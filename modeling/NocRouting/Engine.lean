import NocRouting.Constraint.Meaning
import NocRouting.Status

/-!
# Search engines

An engine takes postings one at a time and, when it is asked to solve, answers on the strength of
everything posted so far.  Nothing else is known of it: how good its answers are is its own affair.
An engine is honest if the solutions it reports are solutions (`Engine.IsHonest`).
-/

namespace NocRouting

/-- The answer to a request to solve. -/
structure Answer (ν : Type) where
  /-- How the search ended. -/
  status : Status
  /-- The value that is reported for every variable.  It means nothing if no solution was found. -/
  value : ν → Value
  /-- The seconds that the search took. -/
  elapsed : Float

/-- A boolean variable is reported to be true. -/
def Answer.isTrue {ν : Type} (a : Answer ν) (v : ν) : Bool :=
  (a.value v).isTrue

/-- A search engine. -/
structure Engine (ν : Type) where
  /-- Whether the engine takes a posting other than a request to solve. -/
  accepts : Posting ν → Except Fault Unit
  /-- The answer to a request to solve, which is the last of the postings. -/
  answer : List (Posting ν) → Except Fault (Answer ν)

namespace Engine

variable {ν : Type}

/-- Make postings one after the other, until the engine refuses one: the postings made, and why
there are no more of them. -/
def take (e : Engine ν) : List (Posting ν) → List (Posting ν) × Except Fault Unit
  | [] => ([], .ok ())
  | p :: rest =>
    match e.accepts p with
    | .ok () =>
      let (made, outcome) := e.take rest
      (p :: made, outcome)
    | .error fault => ([], .error fault)

/-- Whenever the engine reports a solution, the values it reports are whole numbers that meet
everything posted. -/
def IsHonest (e : Engine ν) : Prop :=
  ∀ postings a, e.answer postings = .ok a → a.status.isFeasible = true →
    ∃ σ : ν → Int, (∀ v, a.value v = .int (σ v)) ∧ Satisfies σ postings

/-- An engine that accepts every posting has all of them made. -/
theorem take_of_accepts {e : Engine ν} (h : ∀ p, e.accepts p = .ok ()) (ps : List (Posting ν)) :
    e.take ps = (ps, .ok ()) := by
  induction ps with
  | nil => rfl
  | cons p rest ih => simp [take, h, ih]

end Engine

end NocRouting
