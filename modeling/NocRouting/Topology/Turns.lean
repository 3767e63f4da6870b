import NocRouting.Topology.Basic
import NocRouting.TurnModel

/-!
# Illegal turns

A turn is a pair of links the second of which leaves the router that the first enters.  It is
illegal if it is a reversal, or if it changes the direction in the plane in a way that the turn
model forbids.  Going straight on and changing the layer are always legal, reversals apart.
-/

namespace NocRouting

namespace TurnModel

/-- The turn from one link into another, which leaves the router the first enters, is illegal. -/
def forbids (m : TurnModel) (a b : Link) : Bool :=
  b.sink == a.source ||
    match a.direction, b.direction with
    | some d, some e => d != e && !m.allows d e
    | _, _ => false

end TurnModel

namespace Topology

/-- The illegal turns, ordered by the first link and then by the second. -/
def illegalTurns (t : Topology) (m : TurnModel) : List (Nat × Nat) :=
  t.links.flatMap fun a =>
    ((t.outgoing a.sink).filter (m.forbids a)).map fun b => (a.index, b.index)

end Topology

end NocRouting
