import NocRouting.Direction

/-!
# Turn models

A packet that changes direction at a router takes a turn.  A turn model forbids some turns, so that
no cycle of links that wait for each other can form.  Reversals are forbidden by every model and are
not a turn in this sense; `Topology.illegalTurns` adds them.

* `TurnModel.named` are the models that users choose from.  A model with a rule of its own can be
  used in their place.
-/

namespace NocRouting

/-- A discipline for the turns that packets may take. -/
inductive TurnModel where
  /-- Any turn. -/
  | unrestricted
  /-- Along the row first, then along the column. -/
  | xy
  /-- Westward travel comes first: no turn into the west. -/
  | westFirst
  /-- Northward travel comes last: no turn out of the north. -/
  | northLast
  /-- Travel west and south comes first: no turn from east or north into west or south. -/
  | negativeFirst
  /-- A rule of its own, which says whether a packet may turn from one direction into another. -/
  | custom (text : String) (rule : Direction → Direction → Bool)

namespace TurnModel

/-- The models that restrict turns. -/
def restricting : List TurnModel :=
  [xy, westFirst, northLast, negativeFirst]

/-- The models that users choose from, with the names that they choose them by. -/
def named : List (String × TurnModel) :=
  [("none", unrestricted), ("xy", xy), ("west-first", westFirst), ("north-last", northLast),
    ("negative-first", negativeFirst)]

/-- The models that have a name. -/
def all : List TurnModel :=
  named.map (·.2)

def text : TurnModel → String
  | unrestricted => "TurnModel()"
  | xy => "XYRouting()"
  | westFirst => "WestFirstRouting()"
  | northLast => "NorthLastRouting()"
  | negativeFirst => "NegativeFirstRouting()"
  | custom text _ => text

def ofName? (s : Text) : Option TurnModel :=
  (named.find? fun (name, _) => Text.ofString name == s).map (·.2)

/-- East and north, towards larger coordinates. -/
def isPositive : Direction → Bool
  | .east => true
  | .north => true
  | _ => false

/-- A packet travelling in the first direction may turn into the second.  The two are never
opposite. -/
def allows : TurnModel → Direction → Direction → Bool
  | unrestricted, _, _ => true
  | xy, a, b => a.isHorizontal || !b.isHorizontal
  | westFirst, _, b => b != .west
  | northLast, a, _ => a != .north
  | negativeFirst, a, b => !(isPositive a && !isPositive b)
  | custom _ rule, a, b => rule a b

/-- Every model is found under its name. -/
theorem ofName?_of_mem {name : String} {m : TurnModel} (h : (name, m) ∈ named) :
    ofName? name = some m := by
  simp only [named, List.mem_cons, Prod.mk.injEq, List.not_mem_nil, or_false] at h
  rcases h with ⟨rfl, rfl⟩ | ⟨rfl, rfl⟩ | ⟨rfl, rfl⟩ | ⟨rfl, rfl⟩ | ⟨rfl, rfl⟩
  all_goals rfl

end TurnModel

end NocRouting
