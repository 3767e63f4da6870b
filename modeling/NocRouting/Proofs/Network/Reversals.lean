import NocRouting.Proofs.Network.Deadlock

/-!
# Reversals

A packet that leaves a router in the direction opposite to the one it came in turns around.  Every
turn model rejects this where the packet comes back to the router it came from.  If links in one row
or column have different lengths, it comes to another router instead, and whether it may turn around
is up to the turn model, which is not made for this.

* `Topology.Reverses` relates links to those that turn around.
* `TurnModel.forbids_opposite` says when turning around is forbidden.
* `reversal_illegal_iff` says which reversals are illegal turns, and that all are where links lead to
  neighbours.
-/

namespace NocRouting

/-- The second link leaves the router that the first one enters, in the opposite direction. -/
structure Topology.Reverses (t : Topology) (k l : Link) : Prop where
  first : k ∈ t.links
  second : l ∈ t.links
  join : k.sink = l.source
  opposite : ∃ d, k.direction = some d ∧ l.direction = some d.opposite

namespace TurnModel

variable {k l : Link} {d : Direction}

/-- Turning around is forbidden if it leads back, and otherwise if the model does not allow it. -/
lemma forbids_opposite (m : TurnModel) (hk : k.direction = some d)
    (hl : l.direction = some d.opposite) :
    m.forbids k l = true ↔ l.sink = k.source ∨ m.allows d d.opposite = false := by
  have hne : d ≠ d.opposite := by cases d <;> decide
  simp only [forbids, hk, hl, Bool.or_eq_true, beq_iff_eq, Bool.and_eq_true, bne_iff_ne,
    Bool.not_eq_true', ne_eq, hne, not_false_eq_true, true_and]

end TurnModel

/-- Links that turn around make an illegal turn under every named model exactly if they lead back to
the router that the first of them leaves.  Otherwise it depends on the model, named or not, which is
asked about opposite directions.  Where links lead to neighbours, turning around leads back. -/
theorem reversal_illegal_iff {t : Topology} (ht : t.Reachable) {k l : Link} (h : t.Reverses k l) :
    ((∀ m ∈ TurnModel.all, (k.index, l.index) ∈ t.illegalTurns m) ↔ l.sink = k.source) ∧
    (∀ d, k.direction = some d → ∀ m : TurnModel, ((k.index, l.index) ∈ t.illegalTurns m ↔
      l.sink = k.source ∨ m.allows d d.opposite = false)) ∧
    (t.IsCharted → t.HasUnitSteps → l.sink = k.source) := by
  obtain ⟨d, hk, hl⟩ := h.opposite
  have hiff : ∀ m : TurnModel, (k.index, l.index) ∈ t.illegalTurns m ↔
      l.sink = k.source ∨ m.allows d d.opposite = false := by
    intro m
    rw [ht.isSound.mem_illegalTurns_iff h.first h.second, m.forbids_opposite hk hl]
    exact and_iff_right h.join
  refine ⟨⟨fun hall => ?_, fun hback m _ => (hiff m).2 (.inl hback)⟩, ?_, ?_⟩
  · -- a model that allows every turn has no other reason to reject it
    have hunrestricted : TurnModel.unrestricted ∈ TurnModel.all := by
      simp [TurnModel.all, TurnModel.named]
    refine ((hiff .unrestricted).1 (hall .unrestricted hunrestricted)).resolve_right ?_
    simp [TurnModel.allows]
  · intro e hke m
    obtain rfl := Option.some.inj (hk.symm.trans hke)
    exact hiff m
  · intro hcharted hunit
    exact hcharted.sink_eq_source_of_opposite hunit h.first h.second h.join hk hl

/-! ### Links of different lengths -/

namespace Row

/-- Three routers in a row.  A link leads from the first over the second to the third, from there
one to the second, and one back to the first. -/
def topology : Topology where
  linkBandwidth := .int 64
  linkLatency := .int 1
  routerLatency := .int 1
  routers := [⟨0, .text "a", .ofInts 0 0 0⟩, ⟨1, .text "b", .ofInts 2 0 0⟩,
    ⟨2, .text "c", .ofInts 1 0 0⟩]
  links := [⟨0, 0, 1, .number 0, .number 1, some .east, .int 64, .int 1⟩,
    ⟨1, 1, 2, .number 1, .number 2, some .west, .int 64, .int 1⟩,
    ⟨2, 1, 0, .number 1, .number 0, some .west, .int 64, .int 1⟩]
  compressed := some [⟨0, 0, .int 0⟩, ⟨2, 0, .int 0⟩, ⟨1, 0, .int 0⟩]

lemma reachable : topology.Reachable :=
  .finish (.addLink (.int 1) (.int 0) (.addLink (.int 1) (.int 2) (.addLink (.int 0) (.int 1)
    (.addRouter (.text "c") (.ofInts 1 0 0) (.addRouter (.text "b") (.ofInts 2 0 0)
      (.addRouter (.text "a") (.ofInts 0 0 0) (.bare (.int 64) (.int 1) (.int 1))
      rfl) rfl) rfl) rfl) rfl) rfl) rfl

lemma reverses {l : Link} (hl : l = topology.links[1] ∨ l = topology.links[2]) :
    topology.Reverses topology.links[0] l := by
  rcases hl with rfl | rfl
  all_goals exact ⟨by simp [topology], by simp [topology], rfl, .east, rfl, rfl⟩

end Row

/-- The link all the way back is an illegal turn under every model. -/
theorem row_reversal_illegal_iff : Row.topology.Reachable ∧
    Row.topology.Reverses Row.topology.links[0] Row.topology.links[2] ∧
    ∀ m : TurnModel, (0, 2) ∈ Row.topology.illegalTurns m :=
  ⟨Row.reachable, Row.reverses (.inr rfl), fun m =>
    ((reversal_illegal_iff Row.reachable (Row.reverses (.inr rfl))).2.1 .east rfl m).2 (.inl rfl)⟩

/-- The link that leads half the way back is a turn in the opposite direction too, but legal if any
turn is, and along the row first. -/
theorem row_reversal_legal : Row.topology.Reachable ∧
    Row.topology.Reverses Row.topology.links[0] Row.topology.links[1] ∧
    (0, 1) ∉ Row.topology.illegalTurns .unrestricted ∧ (0, 1) ∉ Row.topology.illegalTurns .xy :=
  ⟨Row.reachable, Row.reverses (.inl rfl), by decide, by decide⟩

end NocRouting
