import NocRouting.Constraint.Limits
import NocRouting.Status

/-!
# Exhaustive search

A problem whose variables have small domains is solved by trying every assignment.  All best
solutions are kept, so that one can tell which values they agree on.  A variable whose value does
not matter is only given the values that tell whether it has another one, and another truth.
Variables are numbered in the order of their creation.

* `Exhaustive.solve` is the outcome of a search.
* `Exhaustive.agreed?` is what all best solutions agree on.
-/

namespace NocRouting

namespace Exhaustive

/-- The values of the variables, by number. -/
abbrev Assignment := List Int

/-- The value of a variable; one without a value counts as zero. -/
def valueOf (a : Assignment) (v : Nat) : Int :=
  a[v]?.getD 0

/-- The bounds of the values that a variable can take. -/
structure Domain where
  lower : Int
  upper : Int

/-- The domain of a variable that was created without one. -/
def Domain.empty : Domain := ⟨1, 0⟩

/-- The domains of the variables that were created, by number. -/
def domains (postings : List (Posting Nat)) : List Domain :=
  postings.filterMap fun
    | .newBool _ => some ⟨0, 1⟩
    | .newInt lower upper _ =>
      match lower.asIndex, upper.asIndex with
      | .ok m, .ok n => some ⟨m, n⟩
      | _, _ => some .empty
    | _ => none

/-- The bounds of the variables that were created. -/
def rangeIn (postings : List (Posting Nat)) (v : Nat) : Int × Int :=
  let d := (domains postings)[v]?.getD .empty
  (d.lower, d.upper)

def Domain.values (d : Domain) : List Int :=
  (List.range (d.upper - d.lower + 1).toNat).map fun (k : Nat) => d.lower + k

/-- The least and the greatest value of a domain, and zero if it is one of its values. -/
def Domain.landmarks (d : Domain) : List Int :=
  ([d.lower, 0, d.upper].filter fun x => d.lower ≤ x && x ≤ d.upper).eraseDups

/-- The values to try for every variable. -/
def candidates (postings : List (Posting Nat)) : List (List Int) :=
  let used := postings.flatMap (·.vars)
  (domains postings).zipIdx.map fun (d, v) => if used.contains v then d.values else d.landmarks

def assignments : List (List Int) → List Assignment
  | [] => [[]]
  | values :: rest =>
    let more := assignments rest
    values.flatMap fun x => more.map (x :: ·)

structure Result where
  status : Status
  /-- The least value of the objective, if there is one and a solution. -/
  objective : Option Int
  best : List Assignment

/-- The outcome of a search that has found nothing. -/
def Result.unsolved (status : Status) : Result :=
  ⟨status, none, []⟩

def solve (postings : List (Posting Nat)) : Result :=
  let solutions := (assignments (candidates postings)).filter fun a =>
    postings.all (·.admits (valueOf a))
  if solutions.isEmpty then .unsolved .infeasible
  else
    match lastObjective? postings with
    | none => ⟨.optimal, none, solutions⟩
    | some e =>
      let least := (solutions.map fun a => e.value (valueOf a)).min?
      ⟨.optimal, least, solutions.filter fun a => some (e.value (valueOf a)) == least⟩

/-- What is read from all best solutions, if it is the same in all of them. -/
def agreed? {α : Type} [BEq α] (r : Result) (read : Assignment → α) : Option α :=
  match r.best.map read with
  | [] => none
  | x :: rest => if rest.all (· == x) then some x else none

end Exhaustive

end NocRouting
