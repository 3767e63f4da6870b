import NocRouting.Device.Tile
import NocRouting.Number.Reading

/-!
# What can go wrong

Every operation that can fail says why with a `Fault`.  The causes are grouped by what they mean to
a user: a description that contradicts itself, a figure that is refused, a value of the wrong sort,
a place or key that does not exist, an operation at the wrong time, and links that do not form a
route.  `Fault.message` words them.
-/

namespace NocRouting

/-- A device, network or traffic description is inconsistent. -/
inductive ConfigurationFault where
  | duplicateRouter (id : Value)
  | positionTaken (first second : Value) (position : Position)
  /-- A link has an end that is no router. -/
  | noSuchRouter (index : Value)
  | selfLink (id : Value)
  /-- A link changes both its column and its row. -/
  | crookedLink (sourceId : Value) (source : Position) (sinkId : Value) (sink : Position)
  | unknownRouter (id : Value)
  /-- The device has no router tile. -/
  | noRouterTiles (tile : Value)
  | tooManyRouters (declared available : Nat)
  | tooFewRouters (declared available : Nat)
  /-- A router is as near to one tile as to another. -/
  | equidistant (id : Value) (first second : Position)
  /-- Two routers are nearest to the same tile. -/
  | tileTaken (id earlier : Value) (position : Position)
  | unplacedBlock (block : Value)
  /-- A router block is placed where there is no router. -/
  | misplacedBlock (block : Value) (location : List Value)
  /-- Hops take no time, so a latency bounds no number of them. -/
  | freeHops
  | missingField (field : Value)

/-- A value of the right sort is refused. -/
inductive Refusal where
  /-- The value is no member of an enumeration. -/
  | notMember (value : Value) (enumeration : String)
  | reservedMember (name : Text)
  /-- No member can have one of the names. -/
  | badMembers (names : List Text)
  /-- Some members are to be left out, but exist already. -/
  | lateOmission (names : List Text)
  | slanted (dx dy : Value)
  /-- A tile type has no cells. -/
  | tileTooSmall
  | tileOutside (tile : TileType) (place : List Value)
  | tileOverlap (tile : TileType) (place : List Value) (earlier : TileType) (cell : Position)
  /-- A link carries nothing. -/
  | noLinkBandwidth
  | negativeLatency
  | negativeDemand (bandwidth : Value)
  | tooFewMembers (expected found : Nat)
  | tooManyMembers (expected : Nat)
  /-- The value `nan` has no whole part. -/
  | nanWhole
  | notNumber (text : Text)
  | notWhole (text : Text)
  | tooManyDigits (count : Nat)
  /-- Lists that should fill a block with the given sizes do not. -/
  | ragged (sizes : List Nat)
  /-- A block of numbers has too many levels of rows. -/
  | tooManyLevels (most : Nat)
  /-- There is no least one of no numbers. -/
  | noLeast
  /-- Two blocks of numbers do not match in size. -/
  | unmatched (first second : List Nat)
  /-- An expression that has to be whole-numbered is not. -/
  | notWholeExpr (expr : Text)
  | noArcs
  /-- An output has no form for a code point. -/
  | unencodable (p : CodePoint)

/-- Something is asked of a list or a grid outside its bounds. -/
inductive RangeFault where
  /-- An index lies outside a list. -/
  | index
  /-- An index lies outside any list. -/
  | beyondAny
  /-- A row lies outside a block of so many rows. -/
  | row (i count : Nat)
  /-- A location lies outside the grid. -/
  | location (place : List Value)
  /-- A list to take from has nothing left. -/
  | exhausted

/-- An operation comes at the wrong time. -/
inductive OrderFault where
  | alreadyBuilt
  | notBuilt
  | notSolved

/-- Links do not form a single chain. -/
inductive ChainFault where
  /-- There are no links between two different routers. -/
  | noLinks (source sink : Value)
  /-- Two links leave one router. -/
  | branches (router : Value)
  /-- The number of links that no other link leads to is not one. -/
  | starts (count : Nat)
  /-- The chain comes back to a router. -/
  | revisits (router : Value)
  /-- Some links are not part of the chain. -/
  | detached (count : Nat)
  | wrongStart (found expected : Value)
  | wrongEnd (found expected : Value)

/-- Why an operation failed. -/
inductive Fault where
  /-- A description is inconsistent. -/
  | configuration (cause : ConfigurationFault)
  | refused (cause : Refusal)
  | mismatch
  /-- A value lacks an operation. -/
  | unsupported
  /-- Numbers and texts that stand in rows are computed with. -/
  | mixedRows
  | zeroDivisor
  /-- Something is too large to be made. -/
  | outOfMemory
  | tooLarge
  /-- A whole number is too large for the words of an engine. -/
  | beyondWord
  /-- Something lies out of bounds. -/
  | range (cause : RangeFault)
  /-- A table has no such entry. -/
  | noEntry (key : Value)
  | noPosition (location : List Value)
  | order (cause : OrderFault)
  /-- Links, given in this order, do not form a chain. -/
  | chain (cause : ChainFault) (links : List Value)
  /-- Lists, or objects, are nested too deeply. -/
  | tooDeep (isList : Bool)
  /-- An interface does not provide an operation. -/
  | abstract

def ConfigurationFault.message : ConfigurationFault → Text
  | .duplicateRouter id => "Router ID '" ++ id.plain ++ "' was declared more than once."
  | .positionTaken first second position =>
    "Routers with IDs '" ++ first.plain ++ "' and '" ++ second.plain ++
      "' occupy the same position " ++ position.text ++ "."
  | .noSuchRouter index => "Router index " ++ index.plain ++ " does not exist."
  | .selfLink id => "Router '" ++ id.plain ++ "' cannot be linked to itself."
  | .crookedLink sourceId source sinkId sink =>
    "NoC link from router " ++ sourceId.plain ++ " at " ++ source.text ++ " to router " ++
      sinkId.plain ++ " at " ++ sink.text ++ " is neither horizontal nor vertical."
  | .unknownRouter id => "No router with ID '" ++ id.plain ++ "' exists in the NoC."
  | .noRouterTiles tile =>
    "No physical NoC routers were found on the FPGA device. Either the provided name for the " ++
      "physical router tile ('" ++ tile.plain ++
      "') was incorrect or the FPGA device has no routers."
  | .tooManyRouters declared available =>
    "The NoC topology in the architecture has more routers (" ++ toString declared ++
      ") than are available in the FPGA device (" ++ toString available ++ ")."
  | .tooFewRouters declared available =>
    "The NoC topology in the architecture uses fewer routers (" ++ toString declared ++
      ") than are available in the FPGA device (" ++ toString available ++ ")."
  | .equidistant id first second =>
    "Router with ID '" ++ id.plain ++
      "' has the same distance to physical router tiles located at position (" ++
      first.x.plain ++ "," ++ first.y.plain ++ ") and (" ++ second.x.plain ++ "," ++
      second.y.plain ++ "). Therefore, no router assignment could be made."
  | .tileTaken id earlier position =>
    "Routers with IDs '" ++ id.plain ++ "' and '" ++ earlier.plain ++
      "' are both closest to physical router tile located at (" ++ position.x.plain ++ "," ++
      position.y.plain ++ ") and the physical router could not be assigned multiple times."
  | .unplacedBlock block => "Router block " ++ block.quoted ++ " has not been placed."
  | .misplacedBlock block location =>
    "Router block " ++ block.quoted ++ " is placed at " ++ Value.tupleText location ++
      " where there is no NoC router."
  | .freeHops =>
    "Link and router latency cannot both be zero when traffic flows have latency requirements."
  | .missingField field =>
    "Problem description is missing the field " ++ field.quoted ++ "."

/-- Coordinates in a message, where texts stand as they are. -/
def placeText (place : List Value) : Text :=
  "(" ++ Value.commaSeparated (place.map (·.plain)) ++ ")"

/-- The sizes of a block of numbers in a message, with something between them. -/
def sizesText (between : String) : List Nat → String
  | [n] => "(" ++ toString n ++ ",)"
  | sizes => "(" ++ between.intercalate (sizes.map toString) ++ ")"

def Refusal.message : Refusal → Text
  | .notMember value enumeration => value.quoted ++ " is not a valid " ++ enumeration
  | .reservedMember name =>
    "_sunder_ names, such as " ++ name.quoted ++ ", are reserved for future Enum use"
  | .badMembers names =>
    "invalid enum member name(s) " ++ Text.joined "," (names.map (·.quoted))
  | .lateOmission names =>
    "_ignore_ cannot specify already set names: \x7b" ++
      Text.joined ", " (names.map (·.quoted)) ++ "\x7d"
  | .slanted dx dy =>
    "Vector " ++ Value.tupleText [dx, dy] ++ " is neither horizontal nor vertical."
  | .tileTooSmall => "Tiles must be at least one cell in size."
  | .tileOutside tile place =>
    tile.text ++ " at " ++ placeText place ++ " does not fit in the grid."
  | .tileOverlap tile place earlier cell =>
    tile.text ++ " at " ++ placeText place ++ " overlaps " ++ earlier.text ++ " at " ++
      cell.text ++ "."
  | .noLinkBandwidth => "NoC link bandwidth must be positive."
  | .negativeLatency => "NoC latencies must not be negative."
  | .negativeDemand bandwidth =>
    "Traffic flow bandwidth must not be negative (got " ++ bandwidth.plain ++ ")."
  | .tooFewMembers expected found =>
    "not enough values to unpack (expected " ++ toString expected ++ ", got " ++ toString found ++
      ")"
  | .tooManyMembers expected =>
    "too many values to unpack (expected " ++ toString expected ++ ")"
  | .nanWhole => "cannot convert float NaN to integer"
  | .notNumber text => "could not convert string to float: " ++ text.quoted
  | .notWhole text =>
    "invalid literal for int() with base 10: " ++ text.quoted.take 200
  | .tooManyDigits count => Reading.tooManyDigits count
  | .ragged sizes =>
    "setting an array element with a sequence. The requested array has an inhomogeneous shape " ++
      "after " ++ toString sizes.length ++ " dimensions. The detected shape was " ++
      sizesText ", " sizes ++ " + inhomogeneous part."
  | .tooManyLevels most =>
    "setting an array element with a sequence. The requested array would exceed the maximum " ++
      "number of dimension of " ++ toString most ++ "."
  | .noLeast => "attempt to get argmin of an empty sequence"
  | .unmatched first second =>
    "operands could not be broadcast together with shapes " ++ sizesText "," first ++ " " ++
      sizesText "," second ++ " "
  | .notWholeExpr expr => "Failed to convert integer linear expression: " ++ expr
  | .noArcs => "add_circuit expects a non-empty array of arcs"
  | .unencodable p => "character " ++ Text.quoted [p] ++ " cannot be encoded"

def RangeFault.message : RangeFault → Text
  | .index => "list index out of range"
  | .beyondAny => "cannot fit 'int' into an index-sized integer"
  | .row i count =>
    "index " ++ toString i ++ " is out of bounds for axis 0 with size " ++ toString count
  | .location place => Value.tupleText place ++ " is not part of the grid."
  | .exhausted => "pop from empty list"

def OrderFault.message : OrderFault → Text
  | .alreadyBuilt => "The NoC topology has already been built."
  | .notBuilt => "The NoC topology has not been built yet."
  | .notSolved => "solve() has not been called."

def ChainFault.message : ChainFault → Text
  | .noLinks source sink =>
    "No links connect router " ++ source.plain ++ " to router " ++ sink.plain ++ "."
  | .branches router => "Route branches at router " ++ router.plain ++ "."
  | .starts count => "Route has " ++ toString count ++ " starting links."
  | .revisits router => "Route visits router " ++ router.plain ++ " twice."
  | .detached count => toString count ++ " links are not part of the route."
  | .wrongStart found expected =>
    "Route starts at router " ++ found.plain ++ " instead of " ++ expected.plain ++ "."
  | .wrongEnd found expected =>
    "Route ends at router " ++ found.plain ++ " instead of " ++ expected.plain ++ "."

def Fault.message : Fault → Text
  | .configuration cause => cause.message
  | .refused cause => cause.message
  | .mismatch => "a value is of the wrong sort"
  | .unsupported => "a value lacks an operation"
  | .mixedRows => "numbers and texts cannot be combined"
  | .zeroDivisor => "float division by zero"
  | .outOfMemory => ""
  | .tooLarge => "a number is too large"
  | .beyondWord =>
    "Unable to cast Python instance of type <class 'int'> to C++ type '?' (#define " ++
      "PYBIND11_DETAILED_ERROR_MESSAGES or compile in debug mode for details)"
  | .range cause => cause.message
  | .noEntry key => key.quoted
  | .noPosition location => Value.tupleText location
  | .order cause => cause.message
  | .chain cause _ => cause.message
  | .tooDeep isList =>
    "maximum recursion depth exceeded while decoding a JSON " ++
      (if isList then "array" else "object") ++ " from a unicode string"
  | .abstract => ""

/-! ### Values of the right sort -/

/-- The members of a value. -/
def Value.asMembers (v : Value) : Except Fault (List Value) :=
  match v.members? with
  | some items => .ok items
  | none => .error .mismatch

/-- The members of a group that has exactly two. -/
def pairOf (members : List Value) : Except Fault (Value × Value) :=
  match members with
  | [a, b] => .ok (a, b)
  | _ =>
    if members.length < 2 then .error (.refused (.tooFewMembers 2 members.length))
    else .error (.refused (.tooManyMembers 2))

/-- The members of a value that has exactly two. -/
def Value.asPair (v : Value) : Except Fault (Value × Value) := do
  pairOf (← v.asMembers)

/-- The value, which has to be able to identify something. -/
def Value.asKey (v : Value) : Except Fault Value :=
  if v.isKey then .ok v else .error .mismatch

/-- The position, whose coordinates have to be able to identify something. -/
def Position.asKey (p : Position) : Except Fault Position :=
  if p.toValues.all (·.isKey) then .ok p else .error .mismatch

/-- The number by which a value picks an item of a list: a whole number or a truth value. -/
def Value.asIndex : Value → Except Fault Int
  | .number (.int n) => .ok n
  | .bool b => .ok b.toInt
  | _ => .error .mismatch

/-- The position of an index in a list of some length.  Negative indices count from the end. -/
def resolveIndex (length : Nat) (index : Int) : Except Fault Nat :=
  let i := if index < 0 then index + length else index
  if 0 ≤ i ∧ i < length then .ok i.toNat
  else .error (.range (if IsWord index then .index else .beyondAny))

/-- The item of a list with an index, which may count from the end. -/
def itemAt {α : Type} (items : List α) (index : Int) : Except Fault α := do
  match items[← resolveIndex items.length index]? with
  | some a => return a
  | none => throw (.range .index)

@[simp] theorem Value.asIndex_int (n : Int) : (Value.int n).asIndex = .ok n := rfl

theorem resolveIndex_ofNat {length i : Nat} (h : i < length) :
    resolveIndex length i = .ok i := by
  have h₀ : ¬ ((i : Int) < 0) := by omega
  have h₁ : 0 ≤ (i : Int) ∧ (i : Int) < length := by omega
  simp [resolveIndex, h₀, h₁]

theorem itemAt_ofNat {α : Type} {items : List α} {i : Nat} {a : α} (h : items[i]? = some a) :
    itemAt items i = .ok a := by
  have hi := (List.getElem?_eq_some_iff.1 h).1
  rw [itemAt, resolveIndex_ofNat hi]
  simp only [bind, Except.bind, h]
  rfl

end NocRouting
