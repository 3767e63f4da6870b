import Mathlib.Data.Prod.Lex
import NocRouting.Proofs.Network.Lookup
import NocRouting.Proofs.Network.Positions
import NocRouting.Proofs.Network.Routing

/-!
# The list of illegal turns

The illegal turns of a network are collected router by router, from the links that leave it.  What
comes of this is a list in which no turn is missing and none comes twice, ordered by the first link
and then by the second, whatever the network was built from: parallel links, links that only change
the layer, and links of any length.

* `TurnModel.Rejects` are the rules of the turn models, one by one.
* `Topology.IsIllegalTurn` says which links of a network make an illegal turn.
* `Topology.Reachable.pairwise_illegalTurns` says that the list is increasing.
* `illegalTurns_exact` says all there is to say about the list.
-/

namespace NocRouting

/-! ### Rules -/

/-- The changes of direction that turn models forbid. -/
inductive TurnModel.Rejects : TurnModel → Direction → Direction → Prop
  /-- Along the row first: no turn from a column into a row. -/
  | xy {d e : Direction} (hd : d = .north ∨ d = .south) (he : e = .east ∨ e = .west) :
    Rejects xy d e
  /-- Westward travel first: no turn into the west. -/
  | westFirst {d : Direction} : Rejects westFirst d .west
  /-- Northward travel last: no turn out of the north. -/
  | northLast {e : Direction} : Rejects northLast .north e
  /-- Travel west and south first: no turn out of the east or the north into one of them. -/
  | negativeFirst {d e : Direction} (hd : d = .east ∨ d = .north) (he : e = .west ∨ e = .south) :
    Rejects negativeFirst d e
  /-- A rule of its own. -/
  | custom {text : String} {rule : Direction → Direction → Bool} {d e : Direction}
    (h : rule d e = false) : Rejects (custom text rule) d e

namespace TurnModel

variable {m : TurnModel} {d e : Direction} {k l : Link}

/-- A model allows what its rule does not forbid. -/
lemma rejects_iff : m.Rejects d e ↔ m.allows d e = false := by
  constructor
  · rintro (⟨rfl | rfl, rfl | rfl⟩ | _ | _ | ⟨rfl | rfl, rfl | rfl⟩ | h)
    case custom => exact h
    all_goals simp [allows, isPositive, Direction.isHorizontal]
  · intro h
    cases m with
    | unrestricted => cases h
    | xy =>
      refine .xy ?_ ?_
      all_goals cases d <;> cases e <;> simp [allows, Direction.isHorizontal] at h ⊢
    | westFirst =>
      obtain rfl : e = .west := by simpa [allows] using h
      exact .westFirst
    | northLast =>
      obtain rfl : d = .north := by simpa [allows] using h
      exact .northLast
    | negativeFirst =>
      refine .negativeFirst ?_ ?_
      all_goals cases d <;> cases e <;> simp [allows, isPositive] at h ⊢
    | custom text rule => exact .custom h

lemma forbids_iff : m.forbids k l = true ↔ l.sink = k.source ∨
    ∃ d e, k.direction = some d ∧ l.direction = some e ∧ d ≠ e ∧ m.Rejects d e := by
  rw [forbids, Bool.or_eq_true, beq_iff_eq]
  refine or_congr_right ?_
  cases k.direction <;> cases l.direction <;> simp [rejects_iff]

end TurnModel

namespace Topology

variable {t : Topology} {m : TurnModel}

/-- Two links, given by number, make an illegal turn: the second one leaves the router that the
first one enters, and it leads back, or the turn model rejects the change of direction. -/
def IsIllegalTurn (t : Topology) (m : TurnModel) (i j : Nat) : Prop :=
  ∃ k l, t.links[i]? = some k ∧ t.links[j]? = some l ∧ k.sink = l.source ∧
    (l.sink = k.source ∨
      ∃ d e, k.direction = some d ∧ l.direction = some e ∧ d ≠ e ∧ m.Rejects d e)

namespace Reachable

variable (h : t.Reachable)
include h

/-- The list holds the illegal turns and nothing else. -/
lemma mem_illegalTurns_iff {i j : Nat} : (i, j) ∈ t.illegalTurns m ↔ t.IsIllegalTurn m i j := by
  simp only [mem_illegalTurns, IsIllegalTurn, ← TurnModel.forbids_iff]
  constructor
  · rintro ⟨k, hk, l, hl, hforbids, hjoin, rfl, rfl⟩
    exact ⟨k, l, h.link_getElem?_index hk, h.link_getElem?_index hl, hjoin.symm, hforbids⟩
  · rintro ⟨k, l, hk, hl, hjoin, hforbids⟩
    exact ⟨k, List.mem_of_getElem? hk, l, List.mem_of_getElem? hl, hforbids, hjoin.symm,
      h.link_index_of_getElem? hk, h.link_index_of_getElem? hl⟩

/-- Turns come in the order of their first links, and those that begin with one link in the order of
the second. -/
lemma pairwise_illegalTurns : (t.illegalTurns m).Pairwise fun p q => toLex p < toLex q := by
  rw [illegalTurns, List.pairwise_flatMap]
  constructor
  · intro k _
    have hsecond := h.pairwise_index_filter fun l => m.forbids k l && l.source == k.sink
    rw [List.pairwise_map] at hsecond
    rw [List.pairwise_map, outgoing, List.filter_filter]
    refine hsecond.imp fun {l l'} hlt => ?_
    exact Prod.Lex.toLex_lt_toLex.2 (.inr ⟨rfl, hlt⟩)
  · have hfirst : t.links.Pairwise fun k l => k.index < l.index := by
      rw [← List.pairwise_map, h.isSound.link_index]
      exact List.pairwise_lt_range
    refine hfirst.imp fun {k k'} hlt p hp q hq => ?_
    obtain ⟨l, -, rfl⟩ := List.mem_map.1 hp
    obtain ⟨l', -, rfl⟩ := List.mem_map.1 hq
    exact Prod.Lex.toLex_lt_toLex.2 (.inl hlt)

lemma nodup_illegalTurns : (t.illegalTurns m).Nodup :=
  h.pairwise_illegalTurns.imp fun hlt heq => hlt.ne (congrArg toLex heq)

end Reachable

end Topology

/-- The list of illegal turns holds those of the network and nothing else, each of them once, in
increasing order of the first link and then of the second. -/
theorem illegalTurns_exact {t : Topology} (ht : t.Reachable) (m : TurnModel) :
    (∀ i j, (i, j) ∈ t.illegalTurns m ↔ t.IsIllegalTurn m i j) ∧
    (∀ turn ∈ t.illegalTurns m, (t.illegalTurns m).count turn = 1) ∧
    (t.illegalTurns m).Pairwise fun p q => toLex p < toLex q :=
  ⟨fun _ _ => ht.mem_illegalTurns_iff,
    fun _ hturn => List.count_eq_one_of_mem ht.nodup_illegalTurns hturn,
    ht.pairwise_illegalTurns⟩

/-- On four routers in a square, with travel west and south first, a packet that came from the west
cannot leave to the south, and neither can it go back. -/
theorem square_illegalTurns_exact : Square.topology.Reachable ∧
    (6, 5) ∈ Square.topology.illegalTurns .negativeFirst ∧
    (6, 7) ∈ Square.topology.illegalTurns .negativeFirst ∧
    (∀ i j, (i, j) ∈ Square.topology.illegalTurns .negativeFirst ↔
      Square.topology.IsIllegalTurn .negativeFirst i j) ∧
    (∀ turn ∈ Square.topology.illegalTurns .negativeFirst,
      (Square.topology.illegalTurns .negativeFirst).count turn = 1) ∧
    (Square.topology.illegalTurns .negativeFirst).Pairwise fun p q => toLex p < toLex q :=
  ⟨Square.isCharted.reachable, by decide, by decide,
    illegalTurns_exact Square.isCharted.reachable .negativeFirst⟩

end NocRouting
