import NocRouting.Arithmetic
import NocRouting.Block

/-!
# Figures in rows

The capacity of links and the resolution are numbers as a rule.  Where one of them is a list, its
figures are taken in rows, one for each demand, or one for all of them.

Rows hold doubles if all their figures are numbers of ordinary size.  If there is a text among them,
they hold texts, which do not go with doubles.  Rows with anything else hold values as they are;
these are computed with one after the other.

* `Figures.ofValue` reads figures from a value.
* `Figures.combine` is an operation on the figures of two sorts of rows.
* `Figures.rescale` measures demands in units, with figures in rows.
-/

namespace NocRouting

/-- Figures in rows. -/
inductive Figures where
  | doubles (rows : Block Float)
  | texts (rows : Block Value)
  /-- Values of any sort. -/
  | loose (rows : Block Value)

namespace Figures

/-! ### Reading -/

/-- A figure that rows hold only as a value: it is too large for a word of either kind, or neither a
number nor a text. -/
def isLoose : Value → Bool
  | .number (.int n) => n < Int64.minValue.toInt || (UInt64.size : Int) ≤ n
  | .null => true
  | .object _ => true
  | _ => false

/-- The figures in rows of values. -/
def ofRows (rows : Block Value) : Except Fault Figures :=
  if rows.figures.any isLoose then .ok (.loose rows)
  else if rows.figures.any Value.isText then .ok (.texts rows)
  else (rows.mapM (·.asFloat)).map .doubles

/-- The figures of a value, which are in rows if it is a list. -/
def ofValue : Value → Except Fault Figures
  | .list items => do ofRows (← Block.ofValues items)
  | .number n => return .doubles (.single (← n.asFloat))
  | v => ofRows (.single v)

/-! ### Operations -/

def values : Figures → Block Value
  | doubles rows => rows.map fun x => .number (.float x)
  | texts rows => rows
  | loose rows => rows

/-- An operation on figures, given for doubles and for values. -/
def combine (double : Float → Float → Float) (value : Value → Value → Except Fault Value) :
    Figures → Figures → Except Fault Figures
  | doubles a, doubles b => do return doubles ((← a.zip b).map fun (x, y) => double x y)
  | doubles _, texts _ => .error .mixedRows
  | texts _, doubles _ => .error .mixedRows
  | a, b => do return loose (← (← a.values.zip b.values).mapM fun (x, y) => value x y)

/-- The quotient of two values as a double. -/
def quotient (v w : Value) : Except Fault Value := do
  let x ← v.asFloat
  let y ← w.asFloat
  if y == 0.0 then throw .zeroDivisor
  return .number (.float (x / y))

/-- The figures rounded down.  There has to be one in each row. -/
def floors : Figures → Except Fault (List Int)
  | doubles rows => do (← rows.column).mapM fun x => (Number.float x).floor
  | figures => do
    (← figures.values.mapM fun v => do (← v.asNumber).floor).column

/-- The demands in units of the capacity divided by the resolution, rounded down. -/
def rescale (demands : List Float) (capacity resolution : Value) : Except Fault (List Int) := do
  let given := doubles ⟨[demands.length], demands.toArray⟩
  let shares ← combine (· / ·) quotient given (← ofValue capacity)
  let units ← combine (· * ·) Value.times shares (← ofValue resolution)
  floors units

end Figures

end NocRouting
