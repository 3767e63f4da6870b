import NocRouting.Context

/-!
# Itineraries

A route is shown to users as its itinerary: the routers it visits, by the identifiers of the
description.  The itinerary of a route without links is the router that the flow comes from.
-/

namespace NocRouting

def Topology.router (t : Topology) (index : Nat) : Except Fault Router :=
  match t.routers[index]? with
  | some r => .ok r
  | none => .error (.range .index)

/-- The links of a route, given as a list; anything that is empty or nothing is a route without
links. -/
def routeLinks (links : Value) : Except Fault (List Value) :=
  if !links.isTrue then .ok []
  else
    match links with
    | .list items => .ok items
    | .object _ => .error (.noEntry (.int 0))
    | _ => .error .mismatch

/-- The routers that a route visits, from the source of a flow on. -/
def itinerary (t : Topology) (p : Placement) (f : Flow) (links : List Value) :
    Except Fault (List Router) := do
  let numbers ←
    match links with
    | [] => do
      let location ← (← p.location f.source).asMembers
      pure [← t.routerAt location]
    | first :: _ => do
      let start := (← t.link (← first.asIndex)).source
      let sinks ← links.mapM fun i => do return (← t.link (← i.asIndex)).sink
      pure (start :: sinks)
  numbers.mapM t.router

/-- The name of a flow on its itinerary. -/
def Flow.label (f : Flow) : Text :=
  match f.name with
  | .null => "flow " ++ toString f.id
  | v => v.plain

/-- The line that shows the itinerary of a flow. -/
def itineraryLine (t : Topology) (p : Placement) (f : Flow) (links : Value) :
    Except Fault Text := do
  let visited ← itinerary t p f (← routeLinks links)
  return f.label ++ ": " ++ Text.joined " -> " (visited.map (·.id.plain))

end NocRouting
