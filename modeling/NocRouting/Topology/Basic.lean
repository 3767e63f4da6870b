import NocRouting.Arithmetic
import NocRouting.Direction
import NocRouting.Index

/-!
# Networks

A network is built once and only read from then on.  Routers and links are numbered in the order of
their creation; a link leads from one router to another in the same column or row, or in the same
column and row but on another layer.

* `Topology.addRouter`, `Topology.addLink` and `Topology.finish` build a network.  An operation that
  fails leaves it as it was.
* `Topology.outgoing` and `Topology.incoming` are the links at a router.
* `Topology.compressed` holds the positions of the routers after all columns and rows without a
  router have been taken out.
-/

namespace NocRouting

/-- A router of a network. -/
structure Router where
  index : Nat
  /-- Its identifier in the description of the architecture. -/
  id : Value
  /-- The cell at the bottom left of its tile. -/
  position : Position

def Router.text (r : Router) : Text :=
  "<Router " ++ toString r.index ++ " (id " ++ r.id.plain ++ ") at " ++ r.position.text ++ ">"

/-- A link of a network, which leads one way. -/
structure Link where
  index : Nat
  /-- The number of the router it leaves. -/
  source : Nat
  /-- The number of the router it enters. -/
  sink : Nat
  /-- The router it leaves, as it is shown: in the form in which it was given. -/
  shownSource : Index
  /-- The router it enters, as it is shown. -/
  shownSink : Index
  /-- Its direction in the plane; none for a link that only changes the layer. -/
  direction : Option Direction
  bandwidth : Value
  latency : Value

def Link.text (l : Link) : Text :=
  "<Link " ++ toString l.index ++ ": " ++ l.shownSource.text ++ " -> " ++ l.shownSink.text ++ ">"

/-- A position after empty columns and rows have been taken out. -/
structure CompressedPosition where
  /-- The number of columns with a router to the west. -/
  x : Nat
  /-- The number of rows with a router to the south. -/
  y : Nat
  layer : Value

/-- A network. -/
structure Topology where
  linkBandwidth : Value
  linkLatency : Value
  routerLatency : Value
  routers : List Router
  links : List Link
  /-- The compressed positions of the routers, once the network is finished. -/
  compressed : Option (List CompressedPosition)

namespace Topology

/-- A network without routers. -/
def bare (linkBandwidth linkLatency routerLatency : Value) : Topology :=
  ⟨linkBandwidth, linkLatency, routerLatency, [], [], none⟩

def isBuilt (t : Topology) : Bool :=
  t.compressed.isSome

def text (t : Topology) : Text :=
  "<NocTopology with " ++ toString t.routers.length ++ " routers and " ++
    toString t.links.length ++ " links>"

/-! ### Building -/

/-- Only a network that is not finished can be changed. -/
def requireUnbuilt (t : Topology) : Except Fault Unit :=
  if t.isBuilt then .error (.order .alreadyBuilt) else .ok ()

def addRouter (t : Topology) (id : Value) (position : Position) :
    Except Fault (Topology × Router) := do
  t.requireUnbuilt
  let id ← id.asKey
  if t.routers.any (·.id.same id) then
    throw (.configuration (.duplicateRouter id))
  let position ← position.asKey
  if let some r := t.routers.find? (·.position.same position) then
    throw (.configuration (.positionTaken r.id id position))
  let router : Router := ⟨t.routers.length, id, position⟩
  return ({ t with routers := t.routers ++ [router] }, router)

/-- The direction of a link between two routers; none if it only changes the layer. -/
def directionBetween (source sink : Router) : Except Fault (Option Direction) := do
  let dx ← sink.position.x.minus source.position.x
  let dy ← sink.position.y.minus source.position.y
  if dx.eqv (.int 0) && dy.eqv (.int 0) then return none
  match Direction.ofVector dx dy with
  | .ok d => return some d
  | .error _ =>
    throw (.configuration (.crookedLink source.id source.position sink.id sink.position))

/-- The value is the number of a router, which a link may have as an end. -/
def requireRouter (t : Topology) (router : Value) : Except Fault Unit := do
  let n ← router.asNumber
  unless Number.le 0 n && n.lt (.int t.routers.length) do
    throw (.configuration (.noSuchRouter router))

/-- The router with an index, which may count from the end. -/
def routerAtIndex (t : Topology) (index : Int) : Except Fault Router :=
  itemAt t.routers index

/-- Create a link between two routers, given by number. -/
def addLink (t : Topology) (source sink : Value) : Except Fault (Topology × Link) := do
  t.requireUnbuilt
  t.requireRouter source
  t.requireRouter sink
  let tail ← Index.ofValue source
  let a ← t.routerAtIndex tail.value
  if source.eqv sink then
    throw (.configuration (.selfLink a.id))
  let head ← Index.ofValue sink
  let b ← t.routerAtIndex head.value
  let direction ← directionBetween a b
  let link : Link :=
    ⟨t.links.length, a.index, b.index, tail, head, direction, t.linkBandwidth, t.linkLatency⟩
  return ({ t with links := t.links ++ [link] }, link)

/-- How many different coordinates of some routers come before a given one. -/
def rank (coordinates : List Value) (v : Value) : Nat :=
  (Value.distinct coordinates).countP (·.precedes v)

/-- The compressed positions of some routers. -/
def compress (routers : List Router) : List CompressedPosition :=
  let xs := routers.map (·.position.x)
  let ys := routers.map (·.position.y)
  routers.map fun r => ⟨rank xs r.position.x, rank ys r.position.y, r.position.layer⟩

/-- The columns and rows of some routers can be put in order. -/
def areOrdered (routers : List Router) : Bool :=
  Value.areComparable (Value.distinct (routers.map (·.position.x))) &&
    Value.areComparable (Value.distinct (routers.map (·.position.y)))

def finish (t : Topology) : Except Fault Topology := do
  t.requireUnbuilt
  unless areOrdered t.routers do throw .mismatch
  return { t with compressed := some (compress t.routers) }

/-! ### Reading -/

def routerWithId (t : Topology) (id : Value) : Except Fault Nat := do
  let id ← id.asKey
  match t.routers.find? (·.id.same id) with
  | some r => return r.index
  | none => throw (.configuration (.unknownRouter id))

/-- The number of the router whose tile has its origin at a location, which lies on the lowest layer
if it does not say otherwise. -/
def routerAt (t : Topology) (location : List Value) : Except Fault Nat := do
  match location with
  | [x, y] => find x y (.int 0)
  | [x, y, layer] => find x y layer
  | _ => throw .mismatch
where
  /-- The number of the router with the given coordinates. -/
  find (x y layer : Value) : Except Fault Nat := do
    let position ← (Position.mk x y layer).asKey
    match t.routers.find? (·.position.same position) with
    | some r => return r.index
    | none => throw (.noPosition [x, y, layer])

/-- The link with an index, which may count from the end. -/
def link (t : Topology) (index : Int) : Except Fault Link :=
  itemAt t.links index

def outgoing (t : Topology) (router : Nat) : List Link :=
  t.links.filter (·.source == router)

def incoming (t : Topology) (router : Nat) : List Link :=
  t.links.filter (·.sink == router)

/-- The numbers of the links that leave the router with an index, which may count from the end. -/
def outgoingAt (t : Topology) (index : Int) : Except Fault (List Nat) := do
  return (t.outgoing (← resolveIndex t.routers.length index)).map (·.index)

/-- The numbers of the links that enter the router with an index, which may count from the end. -/
def incomingAt (t : Topology) (index : Int) : Except Fault (List Nat) := do
  return (t.incoming (← resolveIndex t.routers.length index)).map (·.index)

/-- The compressed position of the router with an index, which may count from the end.  A network
that is not finished has none, whatever the index. -/
def compressedAt (t : Topology) (index : Value) : Except Fault CompressedPosition := do
  match t.compressed with
  | none => throw (.order .notBuilt)
  | some positions => itemAt positions (← index.asIndex)

def linksTowards (t : Topology) (d : Direction) : List Link :=
  t.links.filter (·.direction == some d)

end Topology

end NocRouting
