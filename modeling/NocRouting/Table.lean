import NocRouting.Position

/-!
# Tables

A table keeps things under keys, in the order in which the keys first came.  What is kept under a key
that is there already takes the place of what was kept there before.

* `Table.find` is what is kept under a key, and `Table.set` keeps something there.
* `Table.numbered` keeps the number of every key of a list.
-/

namespace NocRouting

/-- What can be a key of a table. -/
class Key (κ : Type) where
  /-- Two keys are one and the same. -/
  same : κ → κ → Bool

instance : Key Value := ⟨Value.same⟩

instance : Key Position := ⟨Position.same⟩

/-- Things that are kept under keys. -/
abbrev Table (κ α : Type) := List (κ × α)

namespace Table

variable {κ α : Type} [Key κ]

/-- What is kept under a key. -/
def find (t : Table κ α) (k : κ) : Option α :=
  (t.find? fun e => Key.same e.1 k).map (·.2)

/-- Something is kept under a key. -/
def has (t : Table κ α) (k : κ) : Bool :=
  t.any fun e => Key.same e.1 k

/-- Keep something under a key. -/
def set (t : Table κ α) (k : κ) (a : α) : Table κ α :=
  if t.has k then t.map fun e => if Key.same e.1 k then (e.1, a) else e
  else t ++ [(k, a)]

/-- Keep things under keys, one after the other. -/
def setAll (t new : Table κ α) : Table κ α :=
  new.foldl (fun t e => t.set e.1 e.2) t

/-- The number of every key of a list. -/
def numbered (ks : List κ) : Table κ Nat :=
  setAll [] ks.zipIdx

theorem has_eq_isSome (t : Table κ α) (k : κ) : t.has k = (t.find k).isSome := by
  rw [has, find, Option.isSome_map, List.isSome_find?]

/-- What is kept under a new key comes last. -/
theorem set_of_not_has {t : Table κ α} {k : κ} (h : t.has k = false) (a : α) :
    t.set k a = t ++ [(k, a)] := by
  rw [set, h]
  rfl

/-- What is kept under keys that are all new comes last, in order. -/
theorem setAll_of_not_has {t new : Table κ α} (hnew : ∀ e ∈ new, t.has e.1 = false)
    (hapart : new.Pairwise fun e e' => Key.same e.1 e'.1 = false) : t.setAll new = t ++ new := by
  induction new generalizing t with
  | nil => exact (List.append_nil t).symm
  | cons e new ih =>
    obtain ⟨hfirst, hrest⟩ := List.pairwise_cons.1 hapart
    have hset := set_of_not_has (hnew e List.mem_cons_self) e.2
    rw [setAll, List.foldl_cons, hset, ← setAll, ih ?_ hrest, List.append_assoc]
    · rfl
    · intro e' he'
      have hold := hnew e' (List.mem_cons_of_mem e he')
      rw [has, List.any_append, ← has, hold, List.any_cons, List.any_nil, hfirst e' he']
      rfl

end Table

end NocRouting
