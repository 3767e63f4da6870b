import NocRouting.Proofs.Identity
import NocRouting.Proofs.Network.Positions

/-!
# What a network accepts

A router is accepted if its identifier and its position are free, a link if it joins two different
routers in one column or row, and finishing a network with routers at whole positions always works;
nothing is accepted by a network that is finished.

* `Position.Heads` says in which direction one position lies from another, if there is one.
* `Topology.addRouter_eq`, `Topology.addLink_eq` and `Topology.finish_eq` say what is accepted, and
  what comes of it.
-/

namespace NocRouting

/-! ### Directions between positions -/

namespace Position

/-- One position lies from another in the direction of the single coordinate in the plane that
differs; there is no direction if only the layer differs. -/
inductive Heads (p q : Position) : Option Direction → Prop
  | east (hx : p.x.whole < q.x.whole) (hy : p.y.whole = q.y.whole) : Heads p q (some .east)
  | west (hx : q.x.whole < p.x.whole) (hy : p.y.whole = q.y.whole) : Heads p q (some .west)
  | north (hx : p.x.whole = q.x.whole) (hy : p.y.whole < q.y.whole) : Heads p q (some .north)
  | south (hx : p.x.whole = q.x.whole) (hy : q.y.whole < p.y.whole) : Heads p q (some .south)
  | layer (hx : p.x.whole = q.x.whole) (hy : p.y.whole = q.y.whole)
    (hlayer : p.layer.whole ≠ q.layer.whole) : Heads p q none

variable {p q : Position}

/-- A direction in the plane is that of the displacement. -/
lemma heads_some_iff {d : Direction} : p.Heads q (some d) ↔
    d.vector = ((q.x.whole - p.x.whole).sign, (q.y.whole - p.y.whole).sign) := by
  constructor
  · intro h
    cases h with
    | east hx hy => rw [Int.sign_eq_one_of_pos (by omega), hy, sub_self]; rfl
    | west hx hy => rw [Int.sign_eq_neg_one_of_neg (by omega), hy, sub_self]; rfl
    | north hx hy => rw [Int.sign_eq_one_of_pos (a := q.y.whole - _) (by omega), hx, sub_self]; rfl
    | south hx hy =>
      rw [Int.sign_eq_neg_one_of_neg (a := q.y.whole - _) (by omega), hx, sub_self]; rfl
  · intro h
    obtain ⟨hx, hy⟩ := Prod.mk.inj h
    cases d with
    | east =>
      have hpos := Int.sign_eq_one_iff_pos.1 hx.symm
      have hzero := Int.sign_eq_zero_iff_zero.1 hy.symm
      exact .east (by omega) (by omega)
    | west =>
      have hneg := Int.sign_eq_neg_one_iff_neg.1 hx.symm
      have hzero := Int.sign_eq_zero_iff_zero.1 hy.symm
      exact .west (by omega) (by omega)
    | north =>
      have hzero := Int.sign_eq_zero_iff_zero.1 hx.symm
      have hpos := Int.sign_eq_one_iff_pos.1 hy.symm
      exact .north (by omega) (by omega)
    | south =>
      have hzero := Int.sign_eq_zero_iff_zero.1 hx.symm
      have hneg := Int.sign_eq_neg_one_iff_neg.1 hy.symm
      exact .south (by omega) (by omega)

/-- Only the layer differs where there is no direction between different positions. -/
lemma heads_none_iff (hp : p.IsWhole) (hq : q.IsWhole) (hpq : p.same q = false) :
    p.Heads q none ↔ p.x.whole = q.x.whole ∧ p.y.whole = q.y.whole := by
  constructor
  · rintro ⟨⟩
    exact ⟨‹_›, ‹_›⟩
  · rintro ⟨hx, hy⟩
    refine .layer hx hy fun hlayer => ?_
    have hsame := (hp.same_iff hq).2 ⟨hx, hy, hlayer⟩
    simp [hpq] at hsame

/-- Only from a different position is there a direction. -/
lemma Heads.same_eq_false {direction : Option Direction} (h : p.Heads q direction)
    (hp : p.IsWhole) (hq : q.IsWhole) : p.same q = false := by
  rw [← Bool.not_eq_true, hp.same_iff hq]
  rintro ⟨hx, hy, hlayer⟩
  cases h <;> omega

lemma IsWhole.isKey (hp : p.IsWhole) : p.IsKey :=
  isKey_iff.2 ⟨hp.x.isKey, hp.y.isKey, hp.layer.isKey⟩

end Position

namespace Topology

/-- Between different whole positions, the direction of a link is where it heads. -/
theorem directionBetween_eq_ok_iff {a b : Router} (ha : a.position.IsWhole)
    (hb : b.position.IsWhole) (hab : a.position.same b.position = false)
    {direction : Option Direction} :
    directionBetween a b = .ok direction ↔ a.position.Heads b.position direction := by
  have hzero : (b.position.x.whole - a.position.x.whole == 0 &&
      b.position.y.whole - a.position.y.whole == 0) = true ↔
      a.position.x.whole = b.position.x.whole ∧ a.position.y.whole = b.position.y.whole := by
    rw [Bool.and_eq_true, beq_iff_eq, beq_iff_eq]
    omega
  constructor
  · intro h
    cases direction with
    | some d =>
      have hvector := (directionBetween_eq_ok ha hb h).1 rfl
      exact Position.heads_some_iff.2 (Direction.ofVector_int.1 hvector)
    | none =>
      simp only [directionBetween, hb.x.minus_eq ha.x, hb.y.minus_eq ha.y, Except.bind_eq_ok,
        Except.ok.injEq, exists_eq_left', Value.eqv_int_int] at h
      split at h
      · next hplane => exact (Position.heads_none_iff ha hb hab).2 (hzero.1 hplane)
      · split at h <;> simp at h
  · intro h
    simp only [directionBetween, hb.x.minus_eq ha.x, hb.y.minus_eq ha.y, Except.bind_eq_ok,
      Except.ok.injEq, exists_eq_left', Value.eqv_int_int]
    cases direction with
    | none =>
      rw [if_pos (hzero.2 ((Position.heads_none_iff ha hb hab).1 h))]
      rfl
    | some d =>
      have hvector := Direction.ofVector_int.2 (Position.heads_some_iff.1 h)
      have hplane : ¬ (a.position.x.whole = b.position.x.whole ∧
          a.position.y.whole = b.position.y.whole) := by
        cases h <;> omega
      rw [if_neg (mt hzero.1 hplane), hvector]
      rfl

variable {t : Topology}

/-! ### What is accepted -/

lemma requireUnbuilt_eq (hbuilt : t.compressed = none) : t.requireUnbuilt = .ok () :=
  requireUnbuilt_eq_ok.2 hbuilt

/-- A router is accepted under a new identifier and at a new position. -/
theorem addRouter_eq {id : Value} {p : Position} (hbuilt : t.compressed = none)
    (hid : id.isKey = true) (hp : p.IsKey) (hfresh : ∀ q ∈ t.routers, q.id.same id = false)
    (hfree : ∀ q ∈ t.routers, q.position.same p = false) :
    t.addRouter id p = .ok ({ t with routers := t.routers ++ [⟨t.routers.length, id, p⟩] },
      ⟨t.routers.length, id, p⟩) := by
  have hany : t.routers.any (·.id.same id) = false := by
    rw [List.any_eq_false]
    intro q hq
    rw [hfresh q hq]
    exact Bool.false_ne_true
  have hfind : t.routers.find? (·.position.same p) = none := by
    rw [List.find?_eq_none]
    intro q hq
    rw [hfree q hq]
    exact Bool.false_ne_true
  simp only [addRouter, requireUnbuilt_eq hbuilt, Value.asKey_eq hid, Position.asKey_eq hp,
    Except.ok_bind, hany, hfind, Bool.false_eq_true, if_false]
  rfl

lemma requireRouter_eq {i : Nat} (hi : i < t.routers.length) :
    t.requireRouter (.int i) = .ok () := by
  have hle : Number.le 0 (.int i) = true := decide_eq_true (Int.natCast_nonneg i)
  have hlt : Number.lt (.int i) (.int t.routers.length) = true :=
    decide_eq_true (Int.ofNat_lt.2 hi)
  simp only [requireRouter, Value.asNumber_int, Except.ok_bind, hle, hlt, Bool.and_true, if_true]
  rfl

lemma routerAtIndex_eq {i : Nat} {r : Router} (hr : t.routers[i]? = some r) :
    t.routerAtIndex i = .ok r :=
  itemAt_ofNat hr

/-- A link is accepted between two different routers, if there is a direction between them. -/
theorem addLink_eq {i j : Nat} {a b : Router} {direction : Option Direction}
    (hbuilt : t.compressed = none) (ha : t.routers[i]? = some a) (hb : t.routers[j]? = some b)
    (hij : i ≠ j) (hdir : directionBetween a b = .ok direction) :
    t.addLink (.int i) (.int j) =
      let l : Link := ⟨t.links.length, a.index, b.index, .number i, .number j, direction,
        t.linkBandwidth, t.linkLatency⟩
      .ok ({ t with links := t.links ++ [l] }, l) := by
  have hi := (List.getElem?_eq_some_iff.1 ha).1
  have hj := (List.getElem?_eq_some_iff.1 hb).1
  have hself : (Value.int i).eqv (.int j) = false := by
    rw [Value.eqv_int_int, beq_eq_false_iff_ne]
    omega
  simp only [addLink, requireUnbuilt_eq hbuilt, requireRouter_eq hi, requireRouter_eq hj,
    Index.ofValue_int, Index.value_number, routerAtIndex_eq ha, routerAtIndex_eq hb, hself, hdir,
    Except.ok_bind, Bool.false_eq_true, if_false]
  rfl

/-- The columns and rows of routers at whole positions can be put in order. -/
lemma areOrdered_of_isWhole {routers : List Router} (h : ∀ r ∈ routers, r.position.IsWhole) :
    areOrdered routers = true := by
  have hcomparable : ∀ f : Position → Value, (∀ p : Position, p.IsWhole → (f p).IsWhole) →
      Value.areComparable (Value.distinct (routers.map fun r => f r.position)) = true := by
    intro f hf
    have hall : (Value.distinct (routers.map fun r => f r.position)).all
        (·.number?.isSome) = true := by
      rw [List.all_eq_true]
      intro v hv
      obtain ⟨r, hr, rfl⟩ := List.mem_map.1 (distinct_subset hv)
      rw [hf _ (h r hr)]
      rfl
    rw [Value.areComparable, hall, Bool.or_true, Bool.true_or]
  rw [areOrdered, Bool.and_eq_true]
  exact ⟨hcomparable (·.x) fun p hp => hp.x, hcomparable (·.y) fun p hp => hp.y⟩

/-- A network with routers at whole positions can be finished, once. -/
theorem finish_eq (hbuilt : t.compressed = none) (h : t.HasWholePositions) :
    t.finish = .ok { t with compressed := some (compress t.routers) } := by
  simp only [finish, requireUnbuilt_eq hbuilt, areOrdered_of_isWhole h, Except.ok_bind, if_true]
  rfl

end Topology

end NocRouting
