import Mathlib.Algebra.Group.Int.Defs
import Mathlib.Algebra.Group.Prod
import Mathlib.Data.Finset.Card
import Mathlib.Data.Int.Order.Basic
import NocRouting.Proofs.Lists
import NocRouting.Proofs.Network.Growth
import NocRouting.Proofs.Whole

/-!
# Places in a finished network

The coordinates of routers are whole numbers as a rule.  Where they are, a link runs in the
direction in which its second router lies from its first one, and the compressed position of a
router counts the columns to its west and the rows to its south.  Counting keeps the order of the
coordinates, so the directions of links can be read off the compressed positions as well.

* `Topology.Reachable.isPlaced` says that no two routers of a network have the same position, and
  that the directions of links and the compressed positions are those of the routers.
* `rank_eq_before` says what compressing a coordinate means, and `before_lt_iff` and `image_before`
  that it keeps the order and leaves no gap.
* `Topology.place` is the compressed position of a router in the plane.
  `Topology.IsCharted.direction_iff` reads the direction of a link off the places of its routers.
-/

namespace NocRouting

/-! ### Columns and rows -/

/-- The number of some whole numbers that lie below a given one. -/
def before (ns : Finset Int) (n : Int) : Nat :=
  (ns.filter (· < n)).card

section Before

variable {ns : Finset Int} {m n : Int}

/-- Counting what lies below keeps the order. -/
lemma before_lt_iff (hm : m ∈ ns) : before ns m < before ns n ↔ m < n := by
  constructor
  · intro h
    by_contra hnm
    refine absurd h (not_lt.2 (Finset.card_le_card fun k hk => ?_))
    simp only [Finset.mem_filter] at hk ⊢
    exact ⟨hk.1, by omega⟩
  · intro h
    refine Finset.card_lt_card ((Finset.ssubset_iff_of_subset fun k hk => ?_).2 ⟨m, ?_⟩)
    · simp only [Finset.mem_filter] at hk ⊢
      exact ⟨hk.1, by omega⟩
    · simp [hm, h]

lemma before_inj (hm : m ∈ ns) (hn : n ∈ ns) : before ns m = before ns n ↔ m = n := by
  constructor
  · intro h
    have hmn := mt (before_lt_iff hm).2 (by omega : ¬ before ns m < before ns n)
    have hnm := mt (before_lt_iff hn).2 (by omega : ¬ before ns n < before ns m)
    omega
  · rintro rfl
    rfl

/-- Counting what lies below keeps the sign of a difference. -/
lemma sign_before (hm : m ∈ ns) (hn : n ∈ ns) :
    ((before ns n : Int) - before ns m).sign = (n - m).sign := by
  have hmn := before_lt_iff (n := n) hm
  have hnm := before_lt_iff (n := m) hn
  rcases lt_trichotomy m n with h | rfl | h
  · rw [Int.sign_eq_one_of_pos (by omega), Int.sign_eq_one_of_pos (by omega)]
  · simp
  · rw [Int.sign_eq_neg_one_of_neg (by omega), Int.sign_eq_neg_one_of_neg (by omega)]

lemma before_lt_card (hm : m ∈ ns) : before ns m < ns.card := by
  refine Finset.card_lt_card
    ((Finset.ssubset_iff_of_subset (Finset.filter_subset _ _)).2 ⟨m, hm, ?_⟩)
  simp

/-- Counting what lies below leaves no gap. -/
lemma image_before : ns.image (before ns) = Finset.range ns.card := by
  refine Finset.eq_of_subset_of_card_le (fun k hk => ?_) ?_
  · obtain ⟨m, hm, rfl⟩ := Finset.mem_image.1 hk
    exact Finset.mem_range.2 (before_lt_card hm)
  · rw [Finset.card_range, Finset.card_image_of_injOn fun m hm n hn h => (before_inj hm hn).1 h]

lemma exists_before {i : Nat} (hi : i < ns.card) : ∃ n ∈ ns, before ns n = i :=
  Finset.mem_image.1 (image_before ▸ Finset.mem_range.2 hi)

end Before

/-- The whole numbers that some values stand for. -/
def wholes (vs : List Value) : Finset Int :=
  (vs.map (·.whole)).toFinset

section Distinct

variable {vs : List Value}

lemma distinct_subset : Value.distinct vs ⊆ vs :=
  firstsBy_subset

variable (hvs : ∀ v ∈ vs, v.IsWhole)
include hvs

/-- Whole numbers are told apart by their values. -/
lemma isKey_whole : IsKey Value.whole (fun v s => s.same v) ([] ++ vs) := by
  intro v hv w hw
  rw [(hvs w hw).same_iff (hvs v hv), eq_comm]

lemma nodup_distinct : ((Value.distinct vs).map Value.whole).Nodup :=
  (isKey_whole hvs).firstsBy_nodup List.nodup_nil

lemma mem_distinct {n : Int} :
    n ∈ (Value.distinct vs).map Value.whole ↔ n ∈ vs.map Value.whole :=
  (isKey_whole hvs).mem_map_firstsBy

/-- The rank of a coordinate is the number of coordinates below it. -/
lemma rank_eq_before {v : Value} (hv : v.IsWhole) :
    Topology.rank vs v = before (wholes vs) v.whole := by
  have hnodup := nodup_distinct hvs
  have hmem : ((Value.distinct vs).map Value.whole).toFinset = wholes vs := by
    ext n
    rw [wholes, List.mem_toFinset, List.mem_toFinset, mem_distinct hvs]
  calc (Value.distinct vs).countP (·.precedes v)
      = (Value.distinct vs).countP (fun w => decide (w.whole < v.whole)) :=
        List.countP_congr fun w hw => by rw [(hvs w (distinct_subset hw)).precedes_eq hv]
    _ = ((Value.distinct vs).map Value.whole).countP (fun n => decide (n < v.whole)) := by
        rw [List.countP_map]
        rfl
    _ = (((Value.distinct vs).map Value.whole).filter (fun n => decide (n < v.whole))).length :=
        List.countP_eq_length_filter
    _ = before (wholes vs) v.whole := by
        rw [before, ← hmem, ← List.toFinset_card_of_nodup (hnodup.filter _), List.toFinset_filter]
        simp only [decide_eq_true_eq]

end Distinct

/-! ### Directions -/

namespace Direction

lemma sign_vector (d : Direction) : (d.vector.1.sign, d.vector.2.sign) = d.vector := by
  cases d <;> rfl

/-- A step back leads where one came from. -/
lemma add_vector_opposite (d : Direction) (p : Int × Int) :
    p + d.vector + d.opposite.vector = p := by
  obtain ⟨x, y⟩ := p
  cases d <;> simp [vector, opposite, code, ofCode]

/-- The direction of a displacement is the one whose steps have the signs of it. -/
lemma ofVector_int {dx dy : Int} {d : Direction} :
    ofVector (.int dx) (.int dy) = .ok d ↔ d.vector = (dx.sign, dy.sign) := by
  have hzero : ∀ n : Int, (n == 0) = (n.sign == 0) := fun n => by
    simp [beq_eq_beq, Int.sign_eq_zero_iff_zero]
  have hpos : ∀ n : Int, ofVector.isPositive (.int n) = .ok (decide (0 < n.sign)) := fun n => by
    simp [ofVector.isPositive]
  simp only [ofVector, Value.eqv_int_int, hzero dx, hzero dy, hpos]
  rcases Int.sign_trichotomy dx with hx | hx | hx <;>
    rcases Int.sign_trichotomy dy with hy | hy | hy <;>
    simp only [hx, hy] <;> cases d <;> simp [vector]

end Direction

/-- A position whose coordinates are whole numbers. -/
structure Position.IsWhole (p : Position) : Prop where
  x : p.x.IsWhole
  y : p.y.IsWhole
  layer : p.layer.IsWhole

@[simp] lemma Position.isWhole_ofInts (x y layer : Int) : (ofInts x y layer).IsWhole :=
  ⟨rfl, rfl, rfl⟩

lemma Position.IsWhole.same_iff {p q : Position} (hp : p.IsWhole) (hq : q.IsWhole) :
    p.same q = true ↔
      p.x.whole = q.x.whole ∧ p.y.whole = q.y.whole ∧ p.layer.whole = q.layer.whole := by
  simp only [Position.same, Bool.and_eq_true, hp.x.same_iff hq.x, hp.y.same_iff hq.y,
    hp.layer.same_iff hq.layer, and_assoc]

namespace Topology

/-- Between whole positions, a direction is that of the displacement. -/
lemma directionBetween_eq_ok {a b : Router} (ha : a.position.IsWhole) (hb : b.position.IsWhole)
    {direction : Option Direction} (h : directionBetween a b = .ok direction) {d : Direction} :
    direction = some d ↔ Direction.ofVector (.int (b.position.x.whole - a.position.x.whole))
      (.int (b.position.y.whole - a.position.y.whole)) = .ok d := by
  simp only [directionBetween, hb.x.minus_eq ha.x, hb.y.minus_eq ha.y, Except.bind_eq_ok,
    Except.ok.injEq, exists_eq_left', Value.eqv_int_int] at h
  split at h
  · next hzero =>
    obtain rfl := Except.pure_eq_ok.1 h
    obtain ⟨hx, hy⟩ : b.position.x.whole - a.position.x.whole = 0 ∧
        b.position.y.whole - a.position.y.whole = 0 := by
      simpa only [Bool.and_eq_true, beq_iff_eq] using hzero
    simp [hx, hy, Direction.ofVector]
  · split at h
    · next e he =>
      obtain rfl := Except.pure_eq_ok.1 h
      simp [he]
    · simp at h

/-- The direction of a link is that from one of its routers to the other, no two routers have the
same position, and the compressed positions are those of the routers. -/
structure IsPlaced (t : Topology) : Prop where
  direction : ∀ l ∈ t.links, ∃ a b, t.routers[l.source]? = some a ∧ t.routers[l.sink]? = some b ∧
    directionBetween a b = .ok l.direction
  apart : t.routers.Pairwise fun p q => p.position.same q.position = false
  compressed : ∀ positions, t.compressed = some positions → positions = compress t.routers

/-- The positions of routers with different numbers are different. -/
lemma IsPlaced.same_eq_false {t : Topology} (h : t.IsPlaced) {i j : Nat} {a b : Router}
    (ha : t.routers[i]? = some a) (hb : t.routers[j]? = some b) (hij : i < j) :
    a.position.same b.position = false := by
  obtain ⟨hi, rfl⟩ := List.getElem?_eq_some_iff.1 ha
  obtain ⟨hj, rfl⟩ := List.getElem?_eq_some_iff.1 hb
  exact List.pairwise_iff_getElem.1 h.apart i j hi hj hij

theorem Reachable.isPlaced {t : Topology} (h : t.Reachable) : t.IsPlaced := by
  induction h with
  | bare linkBandwidth linkLatency routerLatency =>
    constructor <;> simp [Topology.bare]
  | addRouter id position _ hadd ih =>
    obtain ⟨hbuilt, -, -, -, hfree, rfl, rfl⟩ := addRouter_eq_ok hadd
    refine ⟨?_, ?_, by simp [hbuilt]⟩
    · intro l hl
      obtain ⟨a, b, ha, hb, hdir⟩ := ih.direction l hl
      refine ⟨a, b, ?_, ?_, hdir⟩
      · rw [List.getElem?_append_left (List.getElem?_eq_some_iff.1 ha).1, ha]
      · rw [List.getElem?_append_left (List.getElem?_eq_some_iff.1 hb).1, hb]
    · rw [List.pairwise_append]
      exact ⟨ih.apart, by simp, by simpa using hfree⟩
  | addLink source sink hreach hadd ih =>
    obtain ⟨tail, head, a, b, direction, hbuilt, -, -, -, -, -, ha, hb, hdir, rfl, rfl⟩ :=
      addLink_eq_ok hadd
    have hai := hreach.isSound.index_of_getElem? ha
    have hbi := hreach.isSound.index_of_getElem? hb
    refine ⟨?_, ih.apart, by simp [hbuilt]⟩
    simp only [List.mem_append, List.mem_singleton]
    rintro l (hl | rfl)
    · exact ih.direction l hl
    · exact ⟨a, b, by rw [hai, ha], by rw [hbi, hb], hdir⟩
  | finish _ hfinish ih =>
    obtain ⟨-, -, rfl⟩ := finish_eq_ok hfinish
    refine ⟨ih.direction, ih.apart, ?_⟩
    rintro positions ⟨⟩
    rfl

/-! ### Places -/

/-- All routers are at whole positions. -/
def HasWholePositions (t : Topology) : Prop :=
  ∀ r ∈ t.routers, r.position.IsWhole

/-- The columns with a router. -/
def columns (t : Topology) : Finset Int :=
  wholes (t.routers.map (·.position.x))

/-- The rows with a router. -/
def rows (t : Topology) : Finset Int :=
  wholes (t.routers.map (·.position.y))

/-- The compressed position of a router in the plane, if it has one. -/
def place (t : Topology) (router : Nat) : Int × Int :=
  match t.compressedAt (.int router) with
  | .ok p => (p.x, p.y)
  | .error _ => (0, 0)

/-- The layer of a router of a finished network. -/
def layer (t : Topology) (router : Nat) : Int :=
  match t.compressedAt (.int router) with
  | .ok p => p.layer.whole
  | .error _ => 0

lemma getElem?_of_compressedAt {t : Topology} {i : Nat} {p : CompressedPosition}
    (h : t.compressedAt (.int i) = .ok p) :
    ∃ positions, t.compressed = some positions ∧ positions[i]? = some p := by
  unfold compressedAt at h
  split at h
  · simp at h
  · next positions hpositions =>
    exact ⟨positions, hpositions, getElem?_of_itemAt h⟩

lemma place_eq {t : Topology} {i : Nat} {p : CompressedPosition}
    (h : t.compressedAt (.int i) = .ok p) : t.place i = ((p.x : Int), (p.y : Int)) := by
  rw [place, h]

lemma layer_eq {t : Topology} {i : Nat} {p : CompressedPosition}
    (h : t.compressedAt (.int i) = .ok p) : t.layer i = p.layer.whole := by
  rw [layer, h]

section Columns

variable {t : Topology} {r : Router} (hr : r ∈ t.routers)
include hr

lemma mem_columns : r.position.x.whole ∈ t.columns :=
  List.mem_toFinset.2 (List.mem_map_of_mem (List.mem_map_of_mem hr))

lemma mem_rows : r.position.y.whole ∈ t.rows :=
  List.mem_toFinset.2 (List.mem_map_of_mem (List.mem_map_of_mem hr))

end Columns

/-- A link of the network that takes a single step in a direction. -/
structure IsStep (t : Topology) (d : Direction) (l : Link) : Prop where
  mem : l ∈ t.links
  direction : l.direction = some d
  place : t.place l.sink = t.place l.source + d.vector

/-- A finished network with routers at whole positions. -/
structure IsCharted (t : Topology) : Prop where
  reachable : t.Reachable
  built : t.isBuilt = true
  whole : t.HasWholePositions

namespace IsCharted

variable {t : Topology} (h : t.IsCharted)
include h

/-- A router has as many columns to its west as the compressed position says, and as many rows to
its south. -/
theorem compressedAt_eq {i : Nat} {r : Router} (hr : t.routers[i]? = some r) :
    t.compressedAt (.int i) = .ok ⟨before t.columns r.position.x.whole,
      before t.rows r.position.y.whole, r.position.layer⟩ := by
  obtain ⟨positions, hpositions⟩ := Option.isSome_iff_exists.1 h.built
  obtain rfl := h.reachable.isPlaced.compressed positions hpositions
  have hmem := List.mem_of_getElem? hr
  have hx : rank (t.routers.map (·.position.x)) r.position.x =
      before t.columns r.position.x.whole :=
    rank_eq_before (by simpa using fun q hq => (h.whole q hq).x) (h.whole r hmem).x
  have hy : rank (t.routers.map (·.position.y)) r.position.y =
      before t.rows r.position.y.whole :=
    rank_eq_before (by simpa using fun q hq => (h.whole q hq).y) (h.whole r hmem).y
  have hget : (compress t.routers)[i]? = some ⟨before t.columns r.position.x.whole,
      before t.rows r.position.y.whole, r.position.layer⟩ := by
    rw [compress, List.getElem?_map, hr, Option.map_some, hx, hy]
  rw [compressedAt, hpositions]
  exact itemAt_ofNat hget

lemma place_getElem? {i : Nat} {r : Router} (hr : t.routers[i]? = some r) :
    t.place i = ((before t.columns r.position.x.whole : Int),
      (before t.rows r.position.y.whole : Int)) :=
  place_eq (h.compressedAt_eq hr)

/-- A link has the direction in which its second router lies from its first one. -/
theorem direction_iff {l : Link} (hl : l ∈ t.links) {d : Direction} :
    l.direction = some d ↔ d.vector = (((t.place l.sink).1 - (t.place l.source).1).sign,
      ((t.place l.sink).2 - (t.place l.source).2).sign) := by
  obtain ⟨a, b, ha, hb, hdir⟩ := h.reachable.isPlaced.direction l hl
  have hma := List.mem_of_getElem? ha
  have hmb := List.mem_of_getElem? hb
  rw [h.place_getElem? ha, h.place_getElem? hb, sign_before (mem_columns hma) (mem_columns hmb),
    sign_before (mem_rows hma) (mem_rows hmb),
    directionBetween_eq_ok (h.whole a hma) (h.whole b hmb) hdir, Direction.ofVector_int]

lemma isStep {l : Link} (hl : l ∈ t.links) {d : Direction}
    (hplace : t.place l.sink = t.place l.source + d.vector) : t.IsStep d l := by
  refine ⟨hl, (h.direction_iff hl).2 ?_, hplace⟩
  rw [hplace, Prod.fst_add, Prod.snd_add, add_sub_cancel_left, add_sub_cancel_left,
    Direction.sign_vector]

lemma exists_router {i : Nat} {p : CompressedPosition} (hp : t.compressedAt (.int i) = .ok p) :
    ∃ r, t.routers[i]? = some r ∧ p.layer = r.position.layer := by
  obtain ⟨positions, hpositions, hi⟩ := getElem?_of_compressedAt hp
  obtain rfl := h.reachable.isPlaced.compressed positions hpositions
  obtain ⟨r, hr, rfl⟩ := Option.map_eq_some_iff.1 ((List.getElem?_map ..).symm.trans hi)
  exact ⟨r, hr, rfl⟩

lemma layer_eq_of_same {i j : Nat} {p q : CompressedPosition}
    (hp : t.compressedAt (.int i) = .ok p) (hq : t.compressedAt (.int j) = .ok q)
    (hsame : p.layer.same q.layer = true) : t.layer i = t.layer j := by
  obtain ⟨a, ha, hpa⟩ := h.exists_router hp
  obtain ⟨b, hb, hqb⟩ := h.exists_router hq
  have hwa := (h.whole a (List.mem_of_getElem? ha)).layer
  have hwb := (h.whole b (List.mem_of_getElem? hb)).layer
  rw [layer_eq hp, layer_eq hq]
  rw [hpa, hqb] at hsame ⊢
  exact (hwa.same_iff hwb).1 hsame

/-- Routers at the same place on the same layer are the same. -/
theorem eq_of_place_eq {i j : Nat} (hi : i < t.routers.length) (hj : j < t.routers.length)
    (hplace : t.place i = t.place j) (hlayer : t.layer i = t.layer j) : i = j := by
  obtain ⟨a, ha⟩ : ∃ a, t.routers[i]? = some a := ⟨_, List.getElem?_eq_getElem hi⟩
  obtain ⟨b, hb⟩ : ∃ b, t.routers[j]? = some b := ⟨_, List.getElem?_eq_getElem hj⟩
  have hma := List.mem_of_getElem? ha
  have hmb := List.mem_of_getElem? hb
  have hwa := h.whole a hma
  have hwb := h.whole b hmb
  rw [h.place_getElem? ha, h.place_getElem? hb, Prod.mk.injEq, Int.natCast_inj, Int.natCast_inj,
    before_inj (mem_columns hma) (mem_columns hmb), before_inj (mem_rows hma) (mem_rows hmb)]
    at hplace
  rw [layer_eq (h.compressedAt_eq ha), layer_eq (h.compressedAt_eq hb)] at hlayer
  have hplaced := h.reachable.isPlaced
  rcases lt_trichotomy i j with hij | hij | hij
  · refine absurd ((hwa.same_iff hwb).2 ⟨hplace.1, hplace.2, hlayer⟩) ?_
    simp [hplaced.same_eq_false ha hb hij]
  · exact hij
  · refine absurd ((hwb.same_iff hwa).2 ⟨hplace.1.symm, hplace.2.symm, hlayer.symm⟩) ?_
    simp [hplaced.same_eq_false hb ha hij]

end IsCharted

end Topology

/-! ### Four routers in a square -/

namespace Square

/-- Four routers in two columns and two rows, apart from each other.  Links lead both ways between
neighbours. -/
def topology : Topology where
  linkBandwidth := .int 64
  linkLatency := .int 1
  routerLatency := .int 1
  routers := [⟨0, .text "a", .ofInts 0 0 0⟩, ⟨1, .text "b", .ofInts 4 0 0⟩,
    ⟨2, .text "c", .ofInts 0 3 0⟩, ⟨3, .text "d", .ofInts 4 3 0⟩]
  links := [⟨0, 0, 1, .number 0, .number 1, some .east, .int 64, .int 1⟩,
    ⟨1, 1, 0, .number 1, .number 0, some .west, .int 64, .int 1⟩,
    ⟨2, 0, 2, .number 0, .number 2, some .north, .int 64, .int 1⟩,
    ⟨3, 2, 0, .number 2, .number 0, some .south, .int 64, .int 1⟩,
    ⟨4, 1, 3, .number 1, .number 3, some .north, .int 64, .int 1⟩,
    ⟨5, 3, 1, .number 3, .number 1, some .south, .int 64, .int 1⟩,
    ⟨6, 2, 3, .number 2, .number 3, some .east, .int 64, .int 1⟩,
    ⟨7, 3, 2, .number 3, .number 2, some .west, .int 64, .int 1⟩]
  compressed := some [⟨0, 0, .int 0⟩, ⟨1, 0, .int 0⟩, ⟨0, 1, .int 0⟩, ⟨1, 1, .int 0⟩]

lemma isCharted : topology.IsCharted where
  reachable := .finish (.addLink (.int 3) (.int 2) (.addLink (.int 2) (.int 3)
    (.addLink (.int 3) (.int 1) (.addLink (.int 1) (.int 3) (.addLink (.int 2) (.int 0)
      (.addLink (.int 0) (.int 2) (.addLink (.int 1) (.int 0) (.addLink (.int 0) (.int 1)
        (.addRouter (.text "d") (.ofInts 4 3 0) (.addRouter (.text "c") (.ofInts 0 3 0)
          (.addRouter (.text "b") (.ofInts 4 0 0) (.addRouter (.text "a") (.ofInts 0 0 0)
            (.bare (.int 64) (.int 1) (.int 1))
          rfl) rfl) rfl) rfl) rfl) rfl) rfl) rfl) rfl) rfl) rfl) rfl) rfl
  built := rfl
  whole := by
    simp only [Topology.HasWholePositions, topology, List.mem_cons, List.not_mem_nil, or_false]
    rintro r (rfl | rfl | rfl | rfl) <;> exact ⟨rfl, rfl, rfl⟩

end Square

end NocRouting
