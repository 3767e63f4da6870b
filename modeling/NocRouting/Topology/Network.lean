import NocRouting.Steps
import NocRouting.Table
import NocRouting.Topology.Basic

/-!
# Networks as they are kept

A network is kept with tables by which its routers and links are found: the numbers of the routers by
identifier and by position, and for every router the links that leave it and those that enter it.
Every operation looks at the tables, and brings them up to date one after the other.

* `Network.addRouter`, `Network.addLink` and `Network.finish` build a network in steps.
* `Network.routerWithId`, `Network.routerAt`, `Network.outgoingAt` and `Network.incomingAt` find
  routers and links, and `Network.compressedAt` finds compressed positions.
* `Topology.network` is a network with the tables that it should have.
-/

namespace NocRouting

/-- Values in order with one more, which comes before the first one that it precedes. -/
def Value.inserted (v : Value) : List Value → List Value
  | [] => [v]
  | w :: ws => if v.precedes w then v :: w :: ws else w :: v.inserted ws

/-- Values in order, as far as they can be put in order. -/
def Value.sorted (vs : List Value) : Except Fault (List Value) :=
  if Value.areComparable vs then .ok (vs.foldl (fun ws v => v.inserted ws) [])
  else .error .mismatch

/-- A network with its tables. -/
structure Network where
  linkBandwidth : Value
  linkLatency : Value
  routerLatency : Value
  routers : List Router
  links : List Link
  /-- The numbers of the routers, by identifier. -/
  ids : Table Value Nat
  /-- The numbers of the routers, by position. -/
  locations : Table Position Nat
  /-- The numbers of the links that leave a router, router by router. -/
  outgoing : List (List Nat)
  /-- The numbers of the links that enter a router, router by router. -/
  incoming : List (List Nat)
  /-- The compressed positions of the routers, once the network is finished. -/
  compressed : Option (List CompressedPosition)

namespace Network

/-- A network without routers. -/
def bare (linkBandwidth linkLatency routerLatency : Value) : Network :=
  ⟨linkBandwidth, linkLatency, routerLatency, [], [], [], [], [], [], none⟩

def isBuilt (n : Network) : Bool :=
  n.compressed.isSome

/-- The routers and links of a network. -/
def topology (n : Network) : Topology :=
  ⟨n.linkBandwidth, n.linkLatency, n.routerLatency, n.routers, n.links, n.compressed⟩

/-! ### Building -/

/-- Only a network that is not finished can be changed. -/
def requireUnbuilt (n : Network) : Except Fault Unit :=
  if n.isBuilt then .error (.order .alreadyBuilt) else .ok ()

/-- No router has the identifier. -/
def requireNew (n : Network) (id : Value) : Except Fault Unit :=
  if n.ids.has id then .error (.configuration (.duplicateRouter id)) else .ok ()

/-- No router is at the position, where one with an identifier is to be added. -/
def requireFree (n : Network) (id : Value) (position : Position) : Except Fault Unit := do
  if let some i := n.locations.find position then
    let earlier ← itemAt n.routers i
    throw (.configuration (.positionTaken earlier.id id position))

/-- Enter a router into the list of routers, and into one table after the other. -/
def enterRouter (r : Router) : Steps Network Unit := do
  modify fun n => { n with routers := n.routers ++ [r] }
  modify fun n => { n with ids := n.ids.set r.id r.index }
  modify fun n => { n with locations := n.locations.set r.position r.index }
  modify fun n => { n with outgoing := n.outgoing ++ [[]] }
  modify fun n => { n with incoming := n.incoming ++ [[]] }

def addRouter (id : Value) (position : Position) : Steps Network Router := do
  (← get).requireUnbuilt
  let id ← id.asKey
  (← get).requireNew id
  let position ← position.asKey
  (← get).requireFree id position
  let router : Router := ⟨(← get).routers.length, id, position⟩
  enterRouter router
  return router

/-- The value is the number of a router, which a link may have as an end. -/
def requireRouter (n : Network) (router : Value) : Except Fault Unit := do
  let number ← router.asNumber
  unless Number.le 0 number && number.lt (.int n.routers.length) do
    throw (.configuration (.noSuchRouter router))

/-- The ends of a link are different routers. -/
def requireApart (source sink : Value) (a : Router) : Except Fault Unit :=
  if source.eqv sink then .error (.configuration (.selfLink a.id)) else .ok ()

/-- Lists with a number more in the one with an index. -/
def entered (lists : List (List Nat)) (index : Int) (j : Nat) :
    Except Fault (List (List Nat)) := do
  return lists.modify (← resolveIndex lists.length index) (· ++ [j])

/-- Enter a link into the list of links, and into the tables of the two routers that it joins. -/
def enterLink (l : Link) : Steps Network Unit := do
  modify fun n => { n with links := n.links ++ [l] }
  let outgoing ← entered (← get).outgoing l.shownSource.value l.index
  modify fun n => { n with outgoing := outgoing }
  let incoming ← entered (← get).incoming l.shownSink.value l.index
  modify fun n => { n with incoming := incoming }

/-- Create a link between two routers, given by number. -/
def addLink (source sink : Value) : Steps Network Link := do
  (← get).requireUnbuilt
  (← get).requireRouter source
  (← get).requireRouter sink
  let tail ← Index.ofValue source
  let a ← itemAt (← get).routers tail.value
  requireApart source sink a
  let head ← Index.ofValue sink
  let b ← itemAt (← get).routers head.value
  let direction ← Topology.directionBetween a b
  let n ← get
  let link : Link := ⟨n.links.length, tail.value.toNat, head.value.toNat, tail, head, direction,
    n.linkBandwidth, n.linkLatency⟩
  enterLink link
  return link

/-- The rank of a coordinate among those in a table of ranks. -/
def rankIn (ranks : Table Value Nat) (v : Value) : Except Fault Nat :=
  match ranks.find v with
  | some i => .ok i
  | none => .error (.noEntry v)

/-- The ranks of some coordinates among each other. -/
def ranks (coordinates : List Value) : Except Fault (Table Value Nat) := do
  return Table.numbered (← Value.sorted (Value.distinct coordinates))

/-- The compressed positions of some routers, by tables of the ranks of columns and rows. -/
def compressedBy (columns rows : Table Value Nat) (routers : List Router) :
    Except Fault (List CompressedPosition) :=
  routers.mapM fun r => do
    return ⟨← rankIn columns r.position.x, ← rankIn rows r.position.y, r.position.layer⟩

def finish : Steps Network Unit := do
  (← get).requireUnbuilt
  let routers := (← get).routers
  let columns ← ranks (routers.map (·.position.x))
  let rows ← ranks (routers.map (·.position.y))
  let compressed ← compressedBy columns rows routers
  modify fun n => { n with compressed := some compressed }

/-! ### Reading -/

/-- The number of the router with an identifier. -/
def routerWithId (n : Network) (id : Value) : Except Fault Nat := do
  let id ← id.asKey
  match n.ids.find id with
  | some i => return i
  | none => throw (.configuration (.unknownRouter id))

/-- The number of the router whose tile has its origin at a location, which lies on the lowest layer
if it does not say otherwise. -/
def routerAt (n : Network) (location : List Value) : Except Fault Nat := do
  match location with
  | [x, y] => find x y (.int 0)
  | [x, y, layer] => find x y layer
  | _ => throw .mismatch
where
  /-- The number of the router with the given coordinates. -/
  find (x y layer : Value) : Except Fault Nat := do
    let position ← (Position.mk x y layer).asKey
    match n.locations.find position with
    | some i => return i
    | none => throw (.noPosition [x, y, layer])

/-- The numbers of the links that leave the router with an index, which may count from the end. -/
def outgoingAt (n : Network) (index : Int) : Except Fault (List Nat) :=
  itemAt n.outgoing index

/-- The numbers of the links that enter the router with an index, which may count from the end. -/
def incomingAt (n : Network) (index : Int) : Except Fault (List Nat) :=
  itemAt n.incoming index

/-- The compressed position of the router with an index, which may count from the end.  A network
that is not finished has none, whatever the index. -/
def compressedAt (n : Network) (index : Value) : Except Fault CompressedPosition := do
  match n.compressed with
  | none => throw (.order .notBuilt)
  | some positions => itemAt positions (← index.asIndex)

end Network

/-- A network with the tables that it should have. -/
def Topology.network (t : Topology) : Network where
  linkBandwidth := t.linkBandwidth
  linkLatency := t.linkLatency
  routerLatency := t.routerLatency
  routers := t.routers
  links := t.links
  ids := t.routers.map fun r => (r.id, r.index)
  locations := t.routers.map fun r => (r.position, r.index)
  outgoing := t.routers.map fun r => (t.outgoing r.index).map (·.index)
  incoming := t.routers.map fun r => (t.incoming r.index).map (·.index)
  compressed := t.compressed

end NocRouting
