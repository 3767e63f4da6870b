import NocRouting.Arithmetic

/-!
# Traffic

A traffic flow is a demand of bandwidth between two router blocks.  Flows are numbered in the order
in which they are added.  A flow may have a latency requirement, and may come with a known route,
which is no more than a suggestion.
-/

namespace NocRouting

/-- A traffic flow. -/
structure Flow where
  id : Nat
  /-- The router block it comes from. -/
  source : Value
  /-- The router block it goes to. -/
  sink : Value
  bandwidth : Value
  /-- The latency it tolerates, if that is limited. -/
  maxLatency : Value
  name : Value
  /-- The links of a known route. -/
  route : List Value

namespace Flow

/-- The latency of the flow is limited: it tolerates a latency above zero. -/
def isConstrained (f : Flow) : Except Fault Bool :=
  match f.maxLatency with
  | .null => return false
  | v => return (Number.int 0).lt (← v.asNumber)

/-- The flow in a message, by its name if it has one. -/
def text (f : Flow) : Text :=
  "<TrafficFlow " ++ (match f.name with | .null => ↑(toString f.id) | v => v.plain) ++ " " ++
    f.source.quoted ++ " -> " ++ f.sink.quoted ++ " (" ++ f.bandwidth.plain ++ ")>"

end Flow

/-- What is asked of a flow that is to be added. -/
structure FlowRequest where
  source : Value
  sink : Value
  bandwidth : Value
  maxLatency : Value
  name : Value
  route : Value

/-- The traffic on a network: flows by number. -/
abbrev Traffic := List Flow

namespace Traffic

/-- Add a flow, whose demand must not be negative. -/
def add (t : Traffic) (r : FlowRequest) : Except Fault (Traffic × Flow) := do
  if (← r.bandwidth.asNumber).lt 0 then throw (.refused (.negativeDemand r.bandwidth))
  let route ← r.route.asMembers
  let flow : Flow :=
    ⟨t.length, r.source, r.sink, r.bandwidth, r.maxLatency, r.name, route⟩
  return (t ++ [flow], flow)

/-- Add flows one after the other. -/
def ofRequests (requests : List FlowRequest) : Except Fault Traffic :=
  requests.foldlM (fun t r => do return (← t.add r).1) []

/-- The flow with an index, which may count from the end. -/
def flow (t : Traffic) (index : Int) : Except Fault Flow :=
  itemAt t index

/-- Record a known route for the flow with an index. -/
def setRoute (t : Traffic) (index : Int) (route : Value) : Except Fault Traffic := do
  let route ← route.asMembers
  let i ← resolveIndex t.length index
  return t.modify i fun f => { f with route := route }

/-- The router blocks that take part in the traffic, each once, in the order in which they are
first mentioned. -/
def blocks (t : Traffic) : Except Fault (List Value) := do
  let mentioned ← (t.flatMap fun f => [f.source, f.sink]).mapM (·.asKey)
  return mentioned.foldl (fun seen b => if seen.any (·.same b) then seen else seen ++ [b]) []

end Traffic

end NocRouting
