import NocRouting.Model.Figures

/-!
# Whole-numbered quantities

The search works on whole numbers.  Three quantities make the real figures of a description into
them.

* `rescale` measures the demands of flows in units of which a link carries a given number.
* `hopBudget` is the number of links that a flow can take within its latency.
* `objectiveWeights` makes one overrun outweigh any congestion, and one congested link any
  bandwidth; `weightsOf` does so for figures that need not be whole.
-/

namespace NocRouting

-- Empty sums are the `0` of core, whatever a reader of this module has loaded besides.
attribute [local instance (2000)] Zero.ofOfNat0

/-- The number of units that a fully loaded link carries, unless users choose another. -/
def defaultResolution : Int := 128

/-- The least upper bound of the overrun of a flow. -/
def defaultMaxOverrun : Int := 20

/-- The demands in units of the capacity divided by the resolution, rounded down.  The figures are
doubles throughout, unless the capacity or the resolution is no number; then they are rows. -/
def rescale (demands : List Value) (capacity resolution : Value) : Except Fault (List Int) := do
  if demands.isEmpty then return []
  let demands ← demands.mapM (·.asFloat)
  match capacity.number?, resolution.number? with
  | some c, some r =>
    let c ← c.asFloat
    let r ← r.asFloat
    demands.mapM fun d => (Number.float (d / c * r)).floor
  | _, _ => Figures.rescale demands capacity resolution

/-- The greatest number of links that a flow can take without exceeding its latency.  A path of `n`
links takes `n + 1` routers, so the time left after the first router is divided among hops of a link
and a router each. -/
def hopBudget (linkLatency routerLatency maxLatency : Value) : Except Fault Int := do
  let link ← linkLatency.asNumber
  let router ← routerLatency.asNumber
  let hop ← Number.meeting (· + ·) link router
  if hop.isZero then throw (.configuration .freeHops)
  let left ← Number.meeting (· - ·) (← maxLatency.asNumber) router
  match left.quotient? hop with
  | some q => (Number.float q).floor
  | none => throw .tooLarge

/-- The weights of the overrun and of the number of congested links.  The bandwidth routed never
exceeds that of all flows on all links, which is one less than the weight of a congested link; and
all links congested weigh less than one overrun. -/
def objectiveWeights (demands : List Int) (numLinks : Int) : Int × Int :=
  let congestion := demands.sum * numLinks + 1
  (congestion * (numLinks + 1), congestion)

/-- The weights for figures of any sort, as `objectiveWeights` for whole numbers. -/
def weightsOf (demands : List Value) (numLinks : Value) : Except Fault (Value × Value) := do
  let total ← demands.foldlM Value.plus (.int 0)
  let congestion ← (← total.times numLinks).plus (.int 1)
  return (← congestion.times (← numLinks.plus (.int 1)), congestion)

@[simp] theorem rescale_nil (capacity resolution : Value) :
    rescale [] capacity resolution = .ok [] := rfl

theorem foldlM_plus_int (start : Int) (ns : List Int) :
    (ns.map Value.int).foldlM Value.plus (.int start) = .ok (.int (start + ns.sum)) := by
  induction ns generalizing start with
  | nil => simp [pure, Except.pure]
  | cons n rest ih =>
    simp only [List.map_cons, List.foldlM_cons, Value.plus_int, List.sum_cons]
    show (rest.map Value.int).foldlM Value.plus (.int (start + n)) = _
    rw [ih, Int.add_assoc]

theorem weightsOf_int (demands : List Int) (numLinks : Int) :
    weightsOf (demands.map .int) (.int numLinks) =
      .ok (.int (objectiveWeights demands numLinks).1,
        .int (objectiveWeights demands numLinks).2) := by
  simp only [weightsOf, foldlM_plus_int, Int.zero_add]
  rfl

end NocRouting
