import NocRouting.Arithmetic

/-!
# Documentation of an enumeration

The members of an enumeration are listed, with their codes, below its documentation.  A later member
with a code that has been seen is only another name of the earlier one, and is not listed.

An enumeration is made of entries, each a name with a value.  Most entries are members.  Names
between single underscores are reserved but for a few, and say how to treat the others; names
between double underscores belong to the enumeration itself, and some do not go with every value.

* `EnumDraft.enter` reads an entry, and `EnumDraft.members` makes members of all that was read.
* `Member.ofEntries` are the members that some entries make.
* `enumerationDoc` is the documentation with the list.
-/

namespace NocRouting

structure Member where
  name : Text
  code : Int

namespace Member

/-- The member that a name and a value make, which is made whole. -/
def ofEntry (name : Text) (v : Value) : Except Fault Member := do
  return ⟨name, ← v.truncated⟩

/-- The members that are not merely other names: each is the first of its code. -/
def distinct (members : List Member) : List Member :=
  members.foldl (fun seen m => if seen.any (·.code == m.code) then seen else seen ++ [m]) []

def line (m : Member) : Text :=
  m.name ++ " = " ++ toString m.code ++ "\n"

/-- The name stands between a number of underscores on either side, and neither begins nor ends
with another one. -/
def isBetweenUnderscores (count : Nat) (name : Text) : Bool :=
  let line : Text := List.replicate count '_'
  let inner := (name.drop count).take (name.length - 2 * count)
  2 * count < name.length && name.take count == line &&
    name.drop (name.length - count) == line &&
    inner.head? != some '_' && inner.getLast? != some '_'

end Member

/-! ### Entries -/

/-- The names in a text, between commas and white space. -/
def listedNames (text : Text) : List Text :=
  (text.splitBy fun c d => isBetween c == isBetween d).filter fun part => !part.any isBetween
where
  /-- The code point stands between names. -/
  isBetween (c : CodePoint) : Bool :=
    c == ',' || c.char?.any Text.isSpace

/-- The names that a value lists, among which there can be other values. -/
def Value.listed : Value → Except Fault (List Value)
  | .text s => return (listedNames s).map .text
  | v => do (← v.asMembers).mapM (·.asKey)

/-- An enumeration while its entries are read. -/
structure EnumDraft where
  /-- The members. -/
  entries : List (Text × Value)
  /-- The names that make no members. -/
  omitted : List Value
  /-- What the enumeration has besides members. -/
  traits : List (Text × Value)

namespace EnumDraft

/-- The enumeration before its first entry. -/
def fresh : EnumDraft := ⟨[], [], []⟩

/-- Names between single underscores that are not reserved. -/
def hooks : List Text :=
  ["_order_", "_ignore_", "_generate_next_value_", "_iter_member_", "_iter_member_by_def_",
    "_iter_member_by_value_", "_missing_", "_numeric_repr_"]

/-- The enumeration has a member with a name. -/
def hasMember (d : EnumDraft) (name : Text) : Bool :=
  d.entries.any (·.1 == name)

/-- A name makes no member. -/
def isOmitted (d : EnumDraft) (name : Text) : Bool :=
  d.omitted.any (·.same (.text name))

/-- Give the enumeration something besides members. -/
def withTrait (d : EnumDraft) (name : Text) (v : Value) : EnumDraft :=
  { d with traits := (name, v) :: d.traits }

/-- Leave names out, none of which is a member yet. -/
def leaveOut (d : EnumDraft) (names : List Value) : Except Fault EnumDraft :=
  match (d.entries.map (·.1)).filter fun name => names.any (·.same (.text name)) with
  | [] => .ok { d with omitted := names }
  | late => .error (.refused (.lateOmission late))

def enter (d : EnumDraft) (name : Text) (v : Value) : Except Fault EnumDraft := do
  if Member.isBetweenUnderscores 1 name then
    unless hooks.contains name do throw (.refused (.reservedMember name))
    if name == "_ignore_" then d.leaveOut (← v.listed) else return d.withTrait name v
  else if Member.isBetweenUnderscores 2 name then
    return d.withTrait (if name == "__order__" then "_order_" else name) v
  else if d.hasMember name then throw .mismatch
  else if d.isOmitted name then return d.withTrait name v
  else if d.traits.any (·.1 == name) then throw .mismatch
  else return { d with entries := d.entries ++ [(name, v)] }

def enterAll (d : EnumDraft) (entries : List (Value × Value)) : Except Fault EnumDraft :=
  entries.foldlM (fun d (name, v) =>
    match name with
    | .text name => d.enter name v
    | _ => .error .mismatch) d

/-! ### Members -/

/-- What the enumeration has under a name, unless that is left out: what was given last. -/
def trait? (d : EnumDraft) (name : Text) : Option Value :=
  if d.isOmitted name then none else (d.traits.find? (·.1 == name)).map (·.2)

/-- The enumeration has something under a name. -/
def hasTrait (d : EnumDraft) (name : Text) : Bool :=
  (d.trait? name).isSome

/-- The traits of the enumeration itself are of the right sort. -/
def isSound (d : EnumDraft) : Bool :=
  (d.trait? "__qualname__").all (·.isText) &&
    (d.trait? "__slots__").all (fun v => !v.isText && v.members?.any (·.isEmpty)) &&
    !d.hasTrait "__classcell__"

/-- Names of what every member does when it is made, for which no value is of the right sort. -/
def operations : List Text :=
  ["__init__", "__getattr__", "__getattribute__", "__setattr__"]

/-- The members of the entries, one after the other. -/
def made (d : EnumDraft) : Except Fault (List Member) := do
  match d.entries with
  | [] => return []
  | (name, v) :: rest =>
    if (d.trait? "__new__").any fun | .null => false | _ => true then throw .mismatch
    let first ← Member.ofEntry name v
    if operations.any d.hasTrait then throw .mismatch
    let others ← rest.mapM fun (name, v) => Member.ofEntry name v
    if d.hasTrait "__int__" then throw .mismatch
    return first :: others

/-- The order given for the members is theirs.  An order that is empty is none, and of the names
of one member only the first matters. -/
def isInOrder (d : EnumDraft) (members : List Member) : Bool :=
  let names := (Member.distinct members).map (·.name)
  let isOther (o : Value) : Bool :=
    members.any (fun m => o.same (.text m.name)) && !names.any (fun n => o.same (.text n))
  match d.trait? "_order_" with
  | none => true
  | some order =>
    !order.isTrue ||
      match order.listed with
      | .ok [] => true
      | .ok listed => (Value.list (listed.filter (!isOther ·))).same (.list (names.map .text))
      | .error _ => false

def members (d : EnumDraft) : Except Fault (List Member) := do
  let bad := (["", "mro"] : List Text).filter d.hasMember
  unless bad.isEmpty do throw (.refused (.badMembers bad))
  unless d.isSound do throw .mismatch
  let members ← d.made
  unless d.isInOrder members do throw .mismatch
  return members

end EnumDraft

/-- The members that entries make, each a name with a value. -/
def Member.ofEntries (entries : List (Value × Value)) : Except Fault (List Member) := do
  (← EnumDraft.fresh.enterAll entries).members

/-! ### Documentation -/

/-- The documentation of an enumeration, followed by the list of its members. -/
def enumerationDoc (doc : Option Text) (members : List Member) : Text :=
  doc.getD "" ++ "\n\nAttributes\n----------\n" ++ (Member.distinct members).flatMap Member.line

end NocRouting
