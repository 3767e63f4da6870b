import Mathlib.Data.List.Cycle
import Mathlib.Data.Prod.Lex
import NocRouting.Proofs.Network.Positions
import NocRouting.Proofs.Network.Routing

/-!
# Freedom from deadlock

A packet holds the links it has taken until it gets the next one.  If every packet of a circle waits
for a link that the next one holds, none of them moves again.  On a network whose links are single
steps, every turn model that restricts turns rules this out: a legal turn always leads further on in
an order of the links, which is different for each model.  So does every model that allows no more
turns than one of these.

* `TurnModel.stage` is the place of a link in that order, and `TurnModel.stage_lt` says that legal
  turns lead further on.
* `Topology.Depends` relates links that packets can take one after the other, and `Awaits` those
  that a packet on one of some routes can hold and wait for.
* `deadlock_free` says that neither has a cycle.
-/

namespace NocRouting

namespace TurnModel

/-- Where a link that leaves a place in a direction stands among the links that packets take one
after the other.  Every legal turn leads further on.

* Along the row first: rows come before columns.
* Westward travel first: from then on columns are travelled from west to east.
* Northward travel last: until then rows are travelled from north to south.
* West and south first: one diagonal is travelled downwards, and then upwards. -/
def stage : TurnModel → Direction → Int × Int → Int ×ₗ Int ×ₗ Int
  | xy, .east, (x, _) => toLex (0, toLex (x, 0))
  | xy, .west, (x, _) => toLex (0, toLex (-x, 0))
  | xy, .north, (_, y) => toLex (1, toLex (y, 0))
  | xy, .south, (_, y) => toLex (1, toLex (-y, 0))
  | westFirst, .west, (x, _) => toLex (0, toLex (-x, 0))
  | westFirst, .north, (x, y) => toLex (1, toLex (2 * x, y))
  | westFirst, .south, (x, y) => toLex (1, toLex (2 * x, -y))
  | westFirst, .east, (x, _) => toLex (1, toLex (2 * x + 1, 0))
  | northLast, .east, (x, y) => toLex (0, toLex (-2 * y, x))
  | northLast, .west, (x, y) => toLex (0, toLex (-2 * y, -x))
  | northLast, .south, (_, y) => toLex (0, toLex (-2 * y + 1, 0))
  | northLast, .north, (_, y) => toLex (1, toLex (y, 0))
  | negativeFirst, .west, (x, y) => toLex (0, toLex (-(x + y), 0))
  | negativeFirst, .south, (x, y) => toLex (0, toLex (-(x + y), 0))
  | negativeFirst, .east, (x, y) => toLex (1, toLex (x + y, 0))
  | negativeFirst, .north, (x, y) => toLex (1, toLex (x + y, 0))
  | _, _, _ => toLex (0, toLex (0, 0))

/-- Going on from a link, straight or by a turn that the model allows, leads further on. -/
lemma stage_lt {m : TurnModel} (hm : m ∈ restricting) {d e : Direction} (p : Int × Int)
    (hturn : d = e ∨ m.allows d e = true) (hback : e ≠ d.opposite) :
    m.stage d p < m.stage e (p + d.vector) := by
  obtain ⟨x, y⟩ := p
  simp only [restricting, List.mem_cons, List.not_mem_nil, or_false] at hm
  rcases hm with rfl | rfl | rfl | rfl <;> cases d <;> cases e <;>
    simp [stage, allows, isPositive, Direction.isHorizontal, Direction.opposite, Direction.ofCode,
      Direction.code, Direction.vector, Prod.Lex.toLex_lt_toLex] at hturn hback ⊢
  all_goals omega

end TurnModel

/-! ### Single steps -/

lemma Direction.exists_vector {dx dy : Int} (h : dx.natAbs + dy.natAbs = 1) :
    ∃ d : Direction, d.vector = (dx, dy) := by
  obtain ⟨rfl, rfl⟩ | ⟨rfl, rfl⟩ | ⟨rfl, rfl⟩ | ⟨rfl, rfl⟩ :
      (dx = 1 ∧ dy = 0) ∨ (dx = 0 ∧ dy = 1) ∨ (dx = -1 ∧ dy = 0) ∨ (dx = 0 ∧ dy = -1) := by
    omega
  · exact ⟨.east, rfl⟩
  · exact ⟨.north, rfl⟩
  · exact ⟨.west, rfl⟩
  · exact ⟨.south, rfl⟩

namespace Topology

/-- Every link leads to a neighbour: a router on the same layer whose compressed position is one
step away along one axis. -/
def HasUnitSteps (t : Topology) : Prop :=
  ∀ l ∈ t.links, ∃ p q, t.compressedAt (.int l.source) = .ok p ∧
    t.compressedAt (.int l.sink) = .ok q ∧ p.layer.same q.layer = true ∧
    ((q.x : Int) - p.x).natAbs + ((q.y : Int) - p.y).natAbs = 1

/-- A packet can take the second link after the first one. -/
def Depends (t : Topology) (m : TurnModel) (k l : Link) : Prop :=
  k ∈ t.links ∧ l ∈ t.links ∧ k.sink = l.source ∧ (k.index, l.index) ∉ t.illegalTurns m

/-- Where a link of a network stands in the order of a turn model. -/
def stage (t : Topology) (m : TurnModel) (l : Link) : Int ×ₗ Int ×ₗ Int :=
  match l.direction with
  | some d => m.stage d (t.place l.source)
  | none => toLex (0, toLex (0, 0))

namespace IsCharted

variable {t : Topology} (h : t.IsCharted) (hunit : t.HasUnitSteps) {k l : Link}
include h hunit

/-- A link that leads to a neighbour takes a step. -/
lemma exists_isStep (hl : l ∈ t.links) :
    ∃ d, t.IsStep d l ∧ t.layer l.sink = t.layer l.source := by
  obtain ⟨p, q, hp, hq, hlayer, hstep⟩ := hunit l hl
  obtain ⟨d, hd⟩ := Direction.exists_vector hstep
  refine ⟨d, h.isStep hl ?_, (h.layer_eq_of_same hp hq hlayer).symm⟩
  rw [place_eq hp, place_eq hq, hd, Prod.mk_add_mk, add_sub_cancel, add_sub_cancel]

/-- A step back leads to the router that the first link leaves. -/
lemma sink_eq_source_of_opposite (hk : k ∈ t.links) (hl : l ∈ t.links) (hjoin : k.sink = l.source)
    {d : Direction} (hkd : k.direction = some d) (hld : l.direction = some d.opposite) :
    l.sink = k.source := by
  obtain ⟨_, ⟨-, hkd', hkplace⟩, hklayer⟩ := h.exists_isStep hunit hk
  obtain ⟨_, ⟨-, hld', hlplace⟩, hllayer⟩ := h.exists_isStep hunit hl
  obtain rfl := Option.some.inj (hkd.symm.trans hkd')
  obtain rfl := Option.some.inj (hld.symm.trans hld')
  refine h.eq_of_place_eq (h.reachable.isSound.sink_lt l hl)
    (h.reachable.isSound.source_lt k hk) ?_ ?_
  · rw [hlplace, ← hjoin, hkplace, Direction.add_vector_opposite]
  · rw [hllayer, ← hjoin, hklayer]

/-- A turn that is not illegal leads further on. -/
lemma stage_lt {m m' : TurnModel} (hm' : m' ∈ TurnModel.restricting)
    (hm : ∀ d e, m.allows d e = true → m'.allows d e = true) (hkl : t.Depends m k l) :
    t.stage m' k < t.stage m' l := by
  obtain ⟨hk, hl, hjoin, hlegal⟩ := hkl
  obtain ⟨d, ⟨-, hkd, hkplace⟩, -⟩ := h.exists_isStep hunit hk
  obtain ⟨e, ⟨-, hle, -⟩, -⟩ := h.exists_isStep hunit hl
  have hforbids : ¬ m.forbids k l = true := fun hf =>
    hlegal ((h.reachable.isSound.mem_illegalTurns_iff hk hl).2 ⟨hjoin, hf⟩)
  simp only [TurnModel.forbids, hkd, hle, Bool.or_eq_true, Bool.and_eq_true, beq_iff_eq, bne_iff_ne,
    Bool.not_eq_true', not_or, not_and, Bool.not_eq_false] at hforbids
  obtain ⟨hreversal, hturn⟩ := hforbids
  have hback : e ≠ d.opposite := by
    rintro rfl
    exact hreversal (h.sink_eq_source_of_opposite hunit hk hl hjoin hkd hle)
  simp only [stage, hkd, hle, ← hjoin, hkplace]
  exact TurnModel.stage_lt hm' _ (or_iff_not_imp_left.2 fun hne => hm d e (hturn hne)) hback

end IsCharted

end Topology

/-! ### Circles of waiting packets -/

/-- A way along links of a network without illegal turns. -/
structure Topology.IsRoute (t : Topology) (m : TurnModel) (path : List Link) : Prop where
  subset : path ⊆ t.links
  walk : ∃ a b, IsWalk a path b
  legal : path.IsChain fun k l => (k.index, l.index) ∉ t.illegalTurns m

/-- A packet on one of some routes can hold the first link while it waits for the second. -/
def Awaits (routes : Set (List Link)) (k l : Link) : Prop :=
  ∃ path ∈ routes, [k, l].Sublist path

lemma Topology.IsRoute.isChain {t : Topology} {m : TurnModel} {path : List Link}
    (h : t.IsRoute m path) : path.IsChain (t.Depends m) := by
  obtain ⟨a, b, hwalk⟩ := h.walk
  refine List.isChain_iff_forall_rel_of_append_cons_cons.2 fun k l p q hpath => ?_
  have hjoin := hwalk.isChain_ends
  have hlegal := h.legal
  rw [hpath, List.isChain_append_cons_cons] at hjoin hlegal
  exact ⟨h.subset (by simp [hpath]), h.subset (by simp [hpath]), hjoin.2.1, hlegal.2.1⟩

/-- On a network whose links lead to neighbours, a turn model that restricts turns rules out
deadlock, and so does one that allows no more turns: links that can be taken one after the other
form no cycle, and packets on routes without illegal turns never wait for each other in a circle. -/
theorem deadlock_free {t : Topology} (ht : t.IsCharted) (hunit : t.HasUnitSteps)
    {m m' : TurnModel} (hm' : m' ∈ TurnModel.restricting)
    (hm : ∀ d e, m.allows d e = true → m'.allows d e = true) :
    (∀ s : Cycle Link, s.Chain (t.Depends m) → s = Cycle.nil) ∧
      ∀ routes : Set (List Link), (∀ path ∈ routes, t.IsRoute m path) →
        ∀ s : Cycle Link, s.Chain (Awaits routes) → s = Cycle.nil := by
  -- a relation that leads further on has no cycle
  have hforward : ∀ {R : Link → Link → Prop}, (∀ k l, R k l → t.stage m' k < t.stage m' l) →
      ∀ s : Cycle Link, s.Chain R → s = Cycle.nil := fun hR s hs =>
    Cycle.Chain.eq_nil_of_irrefl (r := Order.Preimage (t.stage m') (· < ·)) (hs.imp hR)
  have hstage : ∀ k l, t.Depends m k l → t.stage m' k < t.stage m' l :=
    fun _ _ => ht.stage_lt hunit hm' hm
  refine ⟨hforward hstage, fun routes hroutes => hforward ?_⟩
  rintro k l ⟨path, hpath, hkl⟩
  have hchain : path.IsChain (Order.Preimage (t.stage m') (· < ·)) :=
    (hroutes path hpath).isChain.imp hstage
  exact List.rel_of_pairwise_cons (hchain.pairwise.sublist hkl) (by simp)

/-- Westward travel first on four routers in a square. -/
theorem square_deadlock_free : Square.topology.IsCharted ∧ Square.topology.HasUnitSteps ∧
    TurnModel.westFirst ∈ TurnModel.restricting ∧
    (∀ s : Cycle Link, s.Chain (Square.topology.Depends .westFirst) → s = Cycle.nil) ∧
      ∀ routes : Set (List Link), (∀ path ∈ routes, Square.topology.IsRoute .westFirst path) →
        ∀ s : Cycle Link, s.Chain (Awaits routes) → s = Cycle.nil := by
  have hunit : Square.topology.HasUnitSteps := by
    simp only [Topology.HasUnitSteps, Square.topology, List.mem_cons, List.not_mem_nil, or_false]
    rintro l (rfl | rfl | rfl | rfl | rfl | rfl | rfl | rfl)
    all_goals exact ⟨_, _, rfl, rfl, by decide, by decide⟩
  have hmem : TurnModel.westFirst ∈ TurnModel.restricting := by simp [TurnModel.restricting]
  exact ⟨Square.isCharted, hunit, hmem, deadlock_free Square.isCharted hunit hmem fun _ _ h => h⟩

end NocRouting
