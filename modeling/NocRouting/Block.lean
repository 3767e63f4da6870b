import NocRouting.Fault

/-!
# Blocks

A block holds figures in rows, or in rows of rows, and so on, as many in each.  Blocks are computed
with figure by figure.  Where one has a single row, or fewer levels of rows, its figures serve for
all the rows of the other.

* `Block.ofValues` reads a block from lists within lists.
* `Block.zip` are the figures of two blocks, in pairs.
* `Block.sumRows` adds up the rows within each row.
-/

namespace NocRouting

/-- Figures in rows, in rows of rows, and so on. -/
structure Block (α : Type) where
  /-- The number of rows, the number of rows within each row, and so on. -/
  sizes : List Nat
  figures : Array α

namespace Block

variable {α β : Type}

/-! ### Reading -/

/-- The greatest number of levels of rows. -/
def maxLevels : Nat := 64

/-- The items of a value that is a list. -/
def items? : Value → Option (List Value)
  | .list items => some items
  | _ => none

/-- The sizes of the rows of some values, which are themselves in rows of the given sizes, and the
values in the innermost rows.  The number bounds how many levels can follow. -/
def measure : Nat → List Nat → List Value → Except Fault (List Nat × List Value)
  | more, sizes, values =>
    match more, values.mapM items? with
    | more + 1, some (row :: rows) =>
      if rows.all (·.length == row.length) then
        measure more (sizes ++ [row.length]) (row :: rows).flatten
      else .error (.refused (.ragged sizes))
    | more, _ =>
      if values.all (items? · |>.isNone) then .ok (sizes, values)
      else if more = 0 then .error (.refused (.tooManyLevels maxLevels))
      else .error (.refused (.ragged sizes))

/-- The block of some values, of which each is a figure or a list of rows. -/
def ofValues (values : List Value) : Except Fault (Block Value) := do
  let (sizes, inner) ← measure (maxLevels - 1) [values.length] values
  return ⟨sizes, inner.toArray⟩

def single (a : α) : Block α := ⟨[], #[a]⟩

def map (op : α → β) (b : Block α) : Block β :=
  ⟨b.sizes, b.figures.map op⟩

def mapM (op : α → Except Fault β) (b : Block α) : Except Fault (Block β) := do
  return ⟨b.sizes, (← b.figures.toList.mapM op).toArray⟩

/-! ### Places -/

/-- The places in a block of some sizes, in order: the number of a row, that of a row within it, and
so on. -/
def places : List Nat → List (List Nat)
  | [] => [[]]
  | n :: rest => (List.range n).flatMap fun i => (places rest).map (i :: ·)

theorem length_places_cons (n : Nat) (rest : List Nat) :
    (places (n :: rest)).length = n * (places rest).length := by
  simp [places, List.length_flatMap, List.map_const']

/-- A place says for each level where it is. -/
theorem length_of_mem_places {sizes place : List Nat} (h : place ∈ places sizes) :
    place.length = sizes.length := by
  induction sizes generalizing place with
  | nil => simp_all [places]
  | cons n rest ih =>
    simp only [places, List.mem_flatMap, List.mem_map] at h
    obtain ⟨i, -, inner, hinner, rfl⟩ := h
    simp [ih hinner]

/-- How many figures come before a place in a block of some sizes.  A single row serves for all. -/
def offset (sizes place : List Nat) : Nat :=
  (sizes.zip place).foldl (fun before (n, i) => before * n + if n = 1 then 0 else i) 0

/-- The figure of a block that serves at a place in a block of as many levels or more. -/
def figureAt [Inhabited α] (b : Block α) (place : List Nat) : α :=
  b.figures.getD (offset b.sizes (place.drop (place.length - b.sizes.length))) default

/-- The block of some sizes with the given figures. -/
def tabulate (sizes : List Nat) (figure : List Nat → α) : Block α :=
  ⟨sizes, ((places sizes).map figure).toArray⟩

/-! ### Operations -/

/-- The size that two sizes stand for together: one row serves for any number. -/
def commonSize? (m n : Nat) : Option Nat :=
  if m = n ∨ n = 1 then some m else if m = 1 then some n else none

/-- The sizes that two blocks can both serve for.  Levels that one lacks are outer ones. -/
def commonSizes? (a : Block α) (b : Block β) : Option (List Nat) :=
  let levels := max a.sizes.length b.sizes.length
  let padded (sizes : List Nat) := List.replicate (levels - sizes.length) 1 ++ sizes
  ((padded a.sizes).zip (padded b.sizes)).mapM fun (m, n) => commonSize? m n

/-- The figures of two blocks, in pairs. -/
def zip [Inhabited α] [Inhabited β] (a : Block α) (b : Block β) : Except Fault (Block (α × β)) :=
  match commonSizes? a b with
  | some sizes => .ok (tabulate sizes fun place => (a.figureAt place, b.figureAt place))
  | none => .error (.refused (.unmatched a.sizes b.sizes))

/-- The rows within each row added up. -/
def sumRows (b : Block Float) : Block Float :=
  match b.sizes with
  | n :: m :: rest =>
    tabulate (n :: rest) fun place =>
      (List.range m).foldl (fun sum j => sum + b.figureAt (place.take 1 ++ j :: place.drop 1)) 0.0
  | _ => b

/-- The row with a number. -/
def row [Inhabited α] (b : Block α) (i : Nat) : Except Fault (Block α) :=
  match b.sizes with
  | n :: rest =>
    if i < n then .ok (tabulate rest fun place => b.figureAt (i :: place))
    else .error (.range (.row i n))
  | [] => .error (.range (.row i 0))

/-- The figures of a block in which every row holds a single one. -/
def column (b : Block α) : Except Fault (List α) :=
  match b.sizes with
  | 0 :: _ => .ok []
  | _ :: rest => if rest.all (· == 1) then .ok b.figures.toList else .error .mismatch
  | [] => .ok b.figures.toList

end Block

end NocRouting
