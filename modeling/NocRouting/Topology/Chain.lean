import NocRouting.Topology.Basic

/-!
# Chains

The links that were chosen for a route come in no particular order.  `Topology.chain` puts them in
the order in which they are travelled, if they form a single chain: no two links leave one router,
exactly one link is entered by no other, and following the links from there visits no router twice
and leaves no link out.
-/

namespace NocRouting

namespace Chain

/-- A link with the index by which it was given. -/
abbrev Given := Value × Link

/-- Follow links from a given one on, through routers that have not been visited.  The number
bounds how many links can follow; the number of all links does. -/
def follow (links : List Given) : Nat → Given → List Nat → Except ChainFault (List Given)
  | 0, first, _ => .ok [first]
  | more + 1, first, visited =>
    let router := first.2.sink
    if visited.contains router then .error (.revisits first.2.shownSink.toValue)
    else
      match links.find? (·.2.source == router) with
      | none => .ok [first]
      | some next => (follow links more next (router :: visited)).map (first :: ·)

/-- The links that no other link leads to. -/
def starts (links : List Given) : List Given :=
  links.filter fun (_, l) => !links.any fun (_, k) => k.sink == l.source

/-- A chain leads from the source to the sink, where these are given. -/
def checkEnds (chain : List Given) (source sink : Option Value) : Except ChainFault Unit := do
  if let (some (_, first), some expected) := (chain.head?, source) then
    if !(Value.int first.source).eqv expected then
      throw (.wrongStart first.shownSource.toValue expected)
  if let (some (_, last), some expected) := (chain.getLast?, sink) then
    if !(Value.int last.sink).eqv expected then throw (.wrongEnd last.shownSink.toValue expected)

/-- Links that all leave different routers, in travelling order. -/
def order (links : List Given) (source sink : Option Value) : Except ChainFault (List Given) := do
  match starts links with
  | [start] =>
    let chain ← follow links links.length start [start.2.source]
    if chain.length ≠ links.length then throw (.detached (links.length - chain.length))
    checkEnds chain source sink
    return chain
  | found => throw (.starts found.length)

end Chain

namespace Topology

/-- The links with the given indices, looked up one after the other until one does not exist or
leaves a router that an earlier one leaves. -/
def gather (t : Topology) (links : List Value) : Except Fault (List Chain.Given) :=
  go links []
where
  /-- The rest of the links after some that leave the given routers. -/
  go : List Value → List Nat → Except Fault (List Chain.Given)
    | [], _ => return []
    | i :: rest, left => do
      let l ← t.link (← i.asIndex)
      if left.contains l.source then throw (.chain (.branches l.shownSource.toValue) links)
      return (i, l) :: (← go rest (l.source :: left))

/-- The given links in travelling order, from the source to the sink where these are given.  No
links at all are a chain from a router to itself. -/
def chain (t : Topology) (links : List Value) (source sink : Option Value) :
    Except Fault (List Chain.Given) := do
  if links.isEmpty then
    if let (some a, some b) := (source, sink) then
      if !a.eqv b then throw (.chain (.noLinks a b) [])
    return []
  let given ← t.gather links
  match Chain.order given source sink with
  | .ok chain => return chain
  | .error cause => throw (.chain cause links)

end Topology

end NocRouting
