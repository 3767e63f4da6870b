import NocRouting.Arithmetic

/-!
# The declared network

What the description of an architecture declares: the properties that all links and all routers
share, and the logical routers.  A logical router says where on the device it should roughly be and
which other routers it has a link to.  A connection in both directions is declared by both routers.
-/

namespace NocRouting

/-- A router as declared. -/
structure LogicalRouter where
  id : Value
  x : Value
  y : Value
  layer : Value
  /-- The identifiers of the routers it has a link to. -/
  connections : List Value

namespace LogicalRouter

/-- A router with the members of a value as its connections. -/
def make (id x y connections layer : Value) : Except Fault LogicalRouter := do
  return ⟨id, x, y, layer, ← connections.asMembers⟩

def text (r : LogicalRouter) : Text :=
  "<LogicalRouter " ++ r.id.plain ++ " at (" ++ r.x.plain ++ ", " ++ r.y.plain ++ ", " ++
    r.layer.plain ++ ")>"

end LogicalRouter

/-- The network as declared. -/
structure Architecture where
  /-- The name of the tiles that hold a router. -/
  routerTile : Value
  linkBandwidth : Value
  linkLatency : Value
  routerLatency : Value
  routers : List LogicalRouter

/-- A network whose links carry something and whose latencies are not negative. -/
def Architecture.make (routerTile linkBandwidth linkLatency routerLatency : Value)
    (routers : List LogicalRouter) : Except Fault Architecture := do
  if (← linkBandwidth.asNumber).le 0 then throw (.refused .noLinkBandwidth)
  if (← linkLatency.asNumber).lt 0 then throw (.refused .negativeLatency)
  if (← routerLatency.asNumber).lt 0 then throw (.refused .negativeLatency)
  return ⟨routerTile, linkBandwidth, linkLatency, routerLatency, routers⟩

end NocRouting
