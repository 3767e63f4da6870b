import NocRouting.Index

/-!
# The variables of a routing model

Every variable stands for one fact about a routing.  Its name spells out which.
-/

namespace NocRouting

/-- A variable of a routing model. -/
inductive RoutingVar where
  /-- The flow takes the link. -/
  | link (flow link : Nat)
  /-- The number of links that the flow takes beyond its budget. -/
  | overrun (flow : Nat)
  /-- The flows demand more of the link than it can carry. -/
  | congested (link : Nat)
  /-- The flow goes directly from one router to another, by one of several links. -/
  | arc (flow : Nat) (tail head : Index)
  /-- The arc that closes the path of the flow, from its end to its beginning. -/
  | closing (flow : Nat)
  /-- The path of the flow leaves the router out. -/
  | skip (flow router : Nat)
  deriving DecidableEq, Repr

namespace RoutingVar

def name : RoutingVar → String
  | link f l => "flow" ++ toString f ++ "_link" ++ toString l
  | overrun f => "flow" ++ toString f ++ "_latency_overrun"
  | congested l => "link" ++ toString l ++ "_congested"
  | arc f a b => "flow" ++ toString f ++ "_arc" ++ a.text ++ "_" ++ b.text
  | closing f => "flow" ++ toString f ++ "_return"
  | skip f r => "flow" ++ toString f ++ "_skip" ++ toString r

end RoutingVar

end NocRouting
