import Mathlib.Tactic.Common
import NocRouting.Fault

/-!
# What values identify

Identifiers, blocks and coordinates are compared by `Value.same`.  On the values that can identify
something it is an equivalence: two of them are the same exactly if they have the same identity.

* `Value.identity` is what a value identifies, and `Value.same_iff` says that nothing else matters.
* `Position.same_trans` and its companions carry this over to positions.
-/

namespace NocRouting

/-- What a value can identify. -/
inductive Identity where
  | nothing
  /-- A number, whatever its form. -/
  | number (value : Exact)
  | text (s : Text)

lemma Exact.ofInt_inj {m n : Int} : Exact.ofInt m = Exact.ofInt n ↔ m = n := by
  rw [Exact.ofInt, Exact.ofInt, Exact.finite.injEq]
  constructor
  · intro h
    have hrat : ((m : Dyadic)).toRat = ((n : Dyadic)).toRat := congrArg Dyadic.toRat h
    rw [Dyadic.toRat_intCast, Dyadic.toRat_intCast] at hrat
    exact Rat.intCast_inj.1 hrat
  · rintro rfl
    rfl

/-- Numbers are the same if their exact values are. -/
lemma Number.same_iff {m n : Number} : m.same n = true ↔ m.exact = n.exact := by
  cases m with
  | int m =>
    cases n with
    | int n => rw [Number.same_int, beq_iff_eq, Number.exact, Number.exact, Exact.ofInt_inj]
    | float y => exact beq_iff_eq
  | float x => exact beq_iff_eq

namespace Value

/-- What a value identifies, if it can identify anything. -/
def identity : Value → Option Identity
  | .null => some .nothing
  | .bool b => some (.number (.ofInt b.toInt))
  | .number n => some (.number n.exact)
  | .text s => some (.text s)
  | _ => none

variable {u v w : Value}

lemma isSome_identity : v.identity.isSome = v.isKey := by
  cases v <;> rfl

/-- A value is the same as one that can identify something exactly if they have the same
identity. -/
theorem same_iff (hv : v.isKey = true) : v.same w = true ↔ v.identity = w.identity := by
  cases v with
  | null => cases w <;> simp [same, identity]
  | bool a =>
    cases w <;> simp [same, identity, number?, Number.same_iff, Number.exact, Exact.ofInt_inj]
  | number m =>
    cases w <;> simp [same, identity, number?, Number.same_iff, Number.exact]
  | text s => cases w <;> simp [same, identity]
  | list items => simp [isKey] at hv
  | object fields => simp [isKey] at hv

/-- What is the same as a value that can identify something can identify something. -/
lemma isKey_of_same (hv : v.isKey = true) (h : v.same w = true) : w.isKey = true := by
  rw [← isSome_identity, ← (same_iff hv).1 h, isSome_identity, hv]

lemma asKey_eq (hv : v.isKey = true) : v.asKey = .ok v :=
  if_pos hv

lemma eq_of_asKey (h : v.asKey = .ok w) : w = v := by
  unfold asKey at h
  split at h
  · exact (Except.ok.inj h).symm
  · simp at h

lemma same_self (hv : v.isKey = true) : v.same v = true :=
  (same_iff hv).2 rfl

lemma same_symm (hv : v.isKey = true) (h : v.same w = true) : w.same v = true :=
  (same_iff (isKey_of_same hv h)).2 ((same_iff hv).1 h).symm

lemma same_trans (hu : u.isKey = true) (hv : v.isKey = true) (huv : u.same v = true)
    (hvw : v.same w = true) : u.same w = true :=
  (same_iff hu).2 (((same_iff hu).1 huv).trans ((same_iff hv).1 hvw))

end Value

namespace Position

/-- All coordinates of a position can identify something. -/
def IsKey (p : Position) : Prop :=
  p.toValues.all (·.isKey) = true

variable {p q r : Position}

lemma isKey_iff :
    p.IsKey ↔ p.x.isKey = true ∧ p.y.isKey = true ∧ p.layer.isKey = true := by
  simp [IsKey, toValues]

lemma asKey_eq (hp : p.IsKey) : p.asKey = .ok p :=
  if_pos hp

lemma eq_of_asKey (h : p.asKey = .ok q) : q = p := by
  unfold asKey at h
  split at h
  · exact (Except.ok.inj h).symm
  · simp at h

lemma same_eq_true : p.same q = true ↔
    p.x.same q.x = true ∧ p.y.same q.y = true ∧ p.layer.same q.layer = true := by
  simp [same, and_assoc]

lemma same_self (hp : p.IsKey) : p.same p = true := by
  obtain ⟨hx, hy, hl⟩ := isKey_iff.1 hp
  exact same_eq_true.2 ⟨Value.same_self hx, Value.same_self hy, Value.same_self hl⟩

lemma isKey_of_same (hp : p.IsKey) (h : p.same q = true) : q.IsKey := by
  obtain ⟨hx, hy, hl⟩ := isKey_iff.1 hp
  obtain ⟨hqx, hqy, hql⟩ := same_eq_true.1 h
  exact isKey_iff.2 ⟨Value.isKey_of_same hx hqx, Value.isKey_of_same hy hqy,
    Value.isKey_of_same hl hql⟩

lemma same_symm (hp : p.IsKey) (h : p.same q = true) : q.same p = true := by
  obtain ⟨hx, hy, hl⟩ := isKey_iff.1 hp
  obtain ⟨hqx, hqy, hql⟩ := same_eq_true.1 h
  exact same_eq_true.2 ⟨Value.same_symm hx hqx, Value.same_symm hy hqy, Value.same_symm hl hql⟩

lemma same_trans (hp : p.IsKey) (hq : q.IsKey) (hpq : p.same q = true) (hqr : q.same r = true) :
    p.same r = true := by
  obtain ⟨hx, hy, hl⟩ := isKey_iff.1 hp
  obtain ⟨hqx, hqy, hql⟩ := isKey_iff.1 hq
  obtain ⟨hpx, hpy, hpl⟩ := same_eq_true.1 hpq
  obtain ⟨hrx, hry, hrl⟩ := same_eq_true.1 hqr
  exact same_eq_true.2 ⟨Value.same_trans hx hqx hpx hrx, Value.same_trans hy hqy hpy hry,
    Value.same_trans hl hql hpl hrl⟩

end Position

end NocRouting
