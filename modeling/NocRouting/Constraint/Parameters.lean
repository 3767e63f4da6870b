import NocRouting.Arithmetic
import NocRouting.Constraint.Basic
import NocRouting.Status

/-!
# Parameters of a search

Some parameters are refused, and some settle how a search ends, whatever is searched.
-/

namespace NocRouting

namespace SearchParameters

/-- The greatest number of threads. -/
def maxWorkers : Int := 10000

/-- A whole number of 32 bits. -/
def halfWord (v : Value) : Except Fault Int := do
  let n ← v.asIndex
  if Int32.minValue.toInt ≤ n ∧ n ≤ Int32.maxValue.toInt then return n else throw .mismatch

/-- The time allowed, which is unlimited if no limit is given. -/
def limit : Value → Except Fault Float
  | .null => .ok (1.0 / 0.0)
  | v =>
    match v.asFloat with
    | .ok x => .ok x
    | .error _ => .error .mismatch

/-- The number of threads, if it is given. -/
def threads : Value → Except Fault (Option Int)
  | .null => .ok none
  | v => do return some (← halfWord v)

/-- How a search with some parameters ends before it begins, if it does.  A search cannot begin on
an invalid problem, with a time limit below zero, or `nan`, or with fewer than no threads, or too
many; and it does not get anywhere without time. -/
def verdict (s : SearchParameters) (isValid : Bool) : Except Fault (Option Status) := do
  discard <| halfWord s.seed
  if s.logProgress.members?.isSome then throw .mismatch
  let time ← limit s.timeLimit
  let workers ← threads s.workers
  if workers.any (fun n => n < 0 || maxWorkers < n) || !(0.0 ≤ time) || !isValid then
    return some .modelInvalid
  if time == 0.0 then return some .unknown
  return none

end SearchParameters

end NocRouting
