import Mathlib.Tactic.Common
import NocRouting.Arithmetic

/-!
# Values that are whole numbers

Coordinates and counters are whole numbers as a rule; a truth value counts as one.  On such values
comparisons and arithmetic are those of the numbers they stand for.

* `Value.IsWhole` says that a value stands for a whole number, which is `Value.whole`.
-/

namespace NocRouting

namespace Value

/-- The whole number that a value stands for, or zero. -/
def whole (v : Value) : Int :=
  match v.number? with
  | some (.int n) => n
  | _ => 0

/-- The value stands for a whole number. -/
def IsWhole (v : Value) : Prop :=
  v.number? = some (.int v.whole)

@[simp] lemma whole_int (n : Int) : (int n).whole = n := rfl

@[simp] lemma isWhole_int (n : Int) : (int n).IsWhole := rfl

section Numbers

variable {v w : Value} {m n : Number} (hv : v.number? = some m) (hw : w.number? = some n)
include hv hw

lemma same_of_number? : v.same w = m.same n := by
  cases v <;> cases hv <;> simp [same, hw]

lemma precedes_of_number? : v.precedes w = m.lt n := by
  cases v <;> cases hv <;> simp only [precedes, hw] <;> rfl

end Numbers

/-- A whole number can identify something. -/
lemma IsWhole.isKey {v : Value} (hv : v.IsWhole) : v.isKey = true := by
  cases v <;> first | rfl | cases hv

namespace IsWhole

variable {v w : Value} (hv : v.IsWhole) (hw : w.IsWhole)
include hv hw

lemma same_iff : v.same w = true ↔ v.whole = w.whole := by
  simp [same_of_number? hv hw]

lemma precedes_eq : v.precedes w = decide (v.whole < w.whole) := by
  simp [precedes_of_number? hv hw]

lemma combined_eq (op : Number → Number → Number) :
    combined op v w = .ok (.number (op (.int v.whole) (.int w.whole))) := by
  have hv' : v.asNumber = .ok (.int v.whole) := by
    rw [asNumber, hv]
  have hw' : w.asNumber = .ok (.int w.whole) := by
    rw [asNumber, hw]
  rw [combined, hv', hw']
  rfl

lemma plus_eq : v.plus w = .ok (.int (v.whole + w.whole)) := by
  have hplus : v.plus w = combined (· + ·) v w := by
    cases v <;> first | rfl | cases hv
  rw [hplus, hv.combined_eq hw]
  rfl

lemma minus_eq : v.minus w = .ok (.int (v.whole - w.whole)) := by
  rw [minus, hv.combined_eq hw]
  rfl

omit hw in
/-- A whole number is no text or list, which would be repeated. -/
lemma isSequence_eq : v.isSequence = false := by
  cases v <;> first | rfl | cases hv

lemma times_eq : v.times w = .ok (.int (v.whole * w.whole)) := by
  have htimes : v.times w = combined (· * ·) v w := by
    simp [times, hv.isSequence_eq, hw.isSequence_eq]
  rw [htimes, hv.combined_eq hw]
  rfl

omit hw in
lemma opposite_eq : v.opposite = .ok (.int (-v.whole)) := by
  rw [opposite, asNumber, hv]
  rfl

end IsWhole

end Value

end NocRouting
