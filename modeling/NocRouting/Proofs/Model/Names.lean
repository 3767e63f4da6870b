import Mathlib
import NocRouting.Model.Variable

/-!
# Names of variables

The name of a variable is made of parts with underscores between them.  Each part is a fixed word or
ends in a number, and none has an underscore in it.  So the parts can be read back from the name,
and the variable from the parts.

* `RoutingVar.parts` are the parts, and `RoutingVar.name_eq` puts the name together.
* `RoutingVar.name_injective` says that no two variables have the same name.
-/

namespace NocRouting

/-! ### Parts of names -/

/-- The text has no underscore, which would break it into parts. -/
def IsUnbroken (s : String) : Prop :=
  '_' ∉ s.toList

instance (s : String) : Decidable (IsUnbroken s) :=
  inferInstanceAs (Decidable ('_' ∉ s.toList))

@[simp] lemma isUnbroken_append {s u : String} :
    IsUnbroken (s ++ u) ↔ IsUnbroken s ∧ IsUnbroken u := by
  rw [IsUnbroken, String.toList_append, List.mem_append, not_or]
  rfl

lemma isDigit_of_mem_repr {n : Nat} {c : Char} (h : c ∈ n.repr.toList) : c.isDigit = true := by
  rw [Nat.toList_repr] at h
  exact Nat.isDigit_of_mem_toDigits (by decide) (by decide) h

@[simp] lemma isUnbroken_repr (n : Nat) : IsUnbroken n.repr :=
  fun h => absurd (isDigit_of_mem_repr h) (by decide)

namespace Index

/-- A number is shown by its digits, with its sign in front if it is negative. -/
lemma of_mem_text_number {n : Int} {c : Char} (h : c ∈ (number n).text.toList) :
    c = '-' ∨ c.isDigit = true := by
  cases n with
  | ofNat n => exact Or.inr (isDigit_of_mem_repr h)
  | negSucc n =>
    have h : c ∈ ("-" ++ (n + 1).repr).toList := h
    rw [String.toList_append, List.mem_append] at h
    rcases h with h | h
    · exact Or.inl (List.mem_singleton.1 h)
    · exact Or.inr (isDigit_of_mem_repr h)

@[simp] lemma isUnbroken_text (i : Index) : IsUnbroken i.text := by
  cases i with
  | number n =>
    intro h
    rcases of_mem_text_number h with h | h <;> exact absurd h (by decide)
  | truth b => cases b <;> decide

/-- A truth value is shown as a word, and no number has letters in it. -/
lemma text_number_ne_truth (n : Int) (b : Bool) : (number n).text ≠ (truth b).text := by
  intro h
  have hletter : 'e' ∈ (truth b).text.toList := by
    cases b <;> decide
  rw [← h] at hletter
  rcases of_mem_text_number hletter with h | h <;> exact absurd h (by decide)

lemma text_injective : Function.Injective text := by
  intro i j h
  cases i with
  | number m =>
    cases j with
    | number n => exact congrArg number (Int.repr_inj.1 h)
    | truth b => exact absurd h (text_number_ne_truth m b)
  | truth a =>
    cases j with
    | number n => exact absurd h.symm (text_number_ne_truth n a)
    | truth b =>
      revert h
      cases a <;> cases b <;> decide

end Index

/-! ### Names -/

namespace RoutingVar

/-- The parts that the name of a variable is made of. -/
def parts : RoutingVar → List String
  | link f l => ["flow" ++ toString f, "link" ++ toString l]
  | overrun f => ["flow" ++ toString f, "latency", "overrun"]
  | congested l => ["link" ++ toString l, "congested"]
  | arc f a b => ["flow" ++ toString f, "arc" ++ a.text, b.text]
  | closing f => ["flow" ++ toString f, "return"]
  | skip f r => ["flow" ++ toString f, "skip" ++ toString r]

/-- A name is its parts with underscores between them. -/
lemma name_eq (v : RoutingVar) : v.name.toList = ['_'].intercalate (v.parts.map String.toList) := by
  cases v <;> simp [name, parts, String.toList_append, List.intercalate]

lemma isUnbroken_of_mem_parts {v : RoutingVar} : ∀ s ∈ v.parts, IsUnbroken s := by
  cases v <;> simp +decide [parts]

/-- The parts can be read back from the name. -/
lemma splitOn_name (v : RoutingVar) : v.name.toList.splitOn '_' = v.parts.map String.toList := by
  rw [name_eq]
  refine List.splitOn_intercalate '_' ?_ ?_
  · intro letters hletters
    obtain ⟨s, hs, rfl⟩ := List.mem_map.1 hletters
    exact isUnbroken_of_mem_parts s hs
  · cases v <;> simp [parts]

/-- The words in the parts tell what a variable stands for, and the numbers for which one. -/
lemma parts_injective : Function.Injective parts := by
  intro v w h
  have hletters := congrArg (List.map String.toList) h
  -- parts of different sorts differ in a letter before the number, or one sort has more of them
  cases v <;> cases w <;>
    simp [parts, String.toList_append, String.toList_inj, Nat.repr_inj,
      Index.text_injective.eq_iff, -Nat.toList_repr] at hletters
  all_goals simp [hletters]

/-- No two variables have the same name. -/
theorem name_injective : Function.Injective name := by
  intro v w h
  have hparts : v.parts.map String.toList = w.parts.map String.toList := by
    rw [← splitOn_name, h, splitOn_name]
  exact parts_injective (List.map_injective_iff.2 (fun _ _ => String.toList_inj.1) hparts)

end RoutingVar

end NocRouting
