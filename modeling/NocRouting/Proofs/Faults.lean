import NocRouting.Block
import NocRouting.Command
import NocRouting.Proofs.Outcome

/-!
# Which faults can arise

Operations that are made of others fail with the faults of those.  So what faults an operation can
fail with is found out part by part.

* `FailsOnly` says that an operation fails with no other faults than given ones; there is a lemma for
  every way in which operations are put together.
* `Fault.IsOrdinary` are the faults that are reported to users, and those about numbers that are too
  large.
* `Fault.CoversValues` are the faults that computing with values fails with, and any more.
-/

namespace NocRouting

/-- The operation fails with no other faults than the given ones. -/
def FailsOnly {ε α : Type} (P : ε → Prop) (x : Except ε α) : Prop :=
  ∀ fault, x = .error fault → P fault

namespace FailsOnly

variable {ε α β σ : Type} {P Q : ε → Prop} {x : Except ε α} {fault : ε}

lemma mono (h : FailsOnly P x) (hPQ : ∀ fault, P fault → Q fault) : FailsOnly Q x :=
  fun fault hfault => hPQ fault (h fault hfault)

lemma ok (a : α) : FailsOnly P (.ok a : Except ε α) := by
  intro fault hfault
  cases hfault

lemma pure (a : α) : FailsOnly P (Pure.pure a : Except ε α) :=
  .ok a

lemma error (h : P fault) : FailsOnly P (.error fault : Except ε α) := by
  intro fault' hfault
  obtain rfl := Except.error.inj hfault
  exact h

lemma throw (h : P fault) : FailsOnly P (throw fault : Except ε α) :=
  .error h

lemma throw_bind {f : α → Except ε β} (h : P fault) :
    FailsOnly P ((MonadExcept.throw fault : Except ε α) >>= f) :=
  .error h

lemma bind {f : α → Except ε β} (hx : FailsOnly P x)
    (hf : ∀ a, x = .ok a → FailsOnly P (f a)) : FailsOnly P (x >>= f) := by
  intro fault hfault
  rcases Except.bind_eq_error.1 hfault with hfault | ⟨a, ha, hfault⟩
  · exact hx fault hfault
  · exact hf a ha fault hfault

lemma map {f : α → β} (hx : FailsOnly P x) : FailsOnly P (x.map f) := by
  intro fault hfault
  exact hx fault (Except.map_eq_error.1 hfault)

lemma ite {c : Prop} [Decidable c] {y : Except ε α} (hx : c → FailsOnly P x)
    (hy : ¬ c → FailsOnly P y) : FailsOnly P (if c then x else y) := by
  split
  · next h => exact hx h
  · next h => exact hy h

lemma mapM {f : α → Except ε β} {as : List α} (h : ∀ a ∈ as, FailsOnly P (f a)) :
    FailsOnly P (as.mapM f) := by
  induction as with
  | nil =>
    rw [List.mapM_nil]
    exact .pure []
  | cons a as ih =>
    rw [List.mapM_cons]
    refine bind (h a List.mem_cons_self) fun b _ => ?_
    refine bind (ih fun a' ha' => h a' (List.mem_cons_of_mem a ha')) fun bs _ => ?_
    exact .pure (b :: bs)

/-- Working through a list fails only as its steps do, in states in which something holds that every
step keeps. -/
lemma foldlM {I : σ → Prop} {f : σ → α → Except ε σ} {as : List α} {s : σ} (hs : I s)
    (h : ∀ a ∈ as, ∀ s, I s → FailsOnly P (f s a) ∧ ∀ s', f s a = .ok s' → I s') :
    FailsOnly P (as.foldlM f s) := by
  induction as generalizing s with
  | nil =>
    rw [List.foldlM_nil]
    exact .pure s
  | cons a as ih =>
    obtain ⟨hfault, hkeep⟩ := h a List.mem_cons_self s hs
    rw [List.foldlM_cons]
    refine bind hfault fun s' hs' => ?_
    exact ih (hkeep s' hs') fun a' ha' => h a' (List.mem_cons_of_mem a ha')

end FailsOnly

/-! ### Ordinary faults -/

/-- The fault is reported to users, or says that something is too large. -/
def Fault.IsOrdinary (fault : Fault) : Prop :=
  Command.isReported fault = true ∨ fault = .tooLarge

open Fault (IsOrdinary)

lemma isOrdinary_configuration {cause : ConfigurationFault} : IsOrdinary (.configuration cause) :=
  .inl rfl

lemma isOrdinary_refused {cause : Refusal} : IsOrdinary (.refused cause) :=
  .inl rfl

lemma isOrdinary_mismatch : IsOrdinary .mismatch :=
  .inl rfl

lemma isOrdinary_tooLarge : IsOrdinary .tooLarge :=
  .inr rfl

/-! ### Computing with values -/

/-- Among the faults are those of computing with values: a value is of the wrong sort or refused, or
a number too large. -/
class Fault.CoversValues (P : Fault → Prop) : Prop where
  mismatch : P .mismatch
  refused (cause : Refusal) : P (.refused cause)
  tooLarge : P .tooLarge

open Fault (CoversValues)

instance : CoversValues IsOrdinary :=
  ⟨isOrdinary_mismatch, fun _ => isOrdinary_refused, isOrdinary_tooLarge⟩

section Values

variable {v w : Value} {n : Number} {P : Fault → Prop} [CoversValues P]

lemma failsOnly_asMembers : FailsOnly P v.asMembers := by
  unfold Value.asMembers
  split
  · exact .ok _
  · exact .error CoversValues.mismatch

lemma failsOnly_asKey : FailsOnly P v.asKey :=
  .ite (fun _ => .ok v) fun _ => .error CoversValues.mismatch

lemma failsOnly_positionAsKey {p : Position} : FailsOnly P p.asKey :=
  .ite (fun _ => .ok p) fun _ => .error CoversValues.mismatch

lemma failsOnly_asNumber : FailsOnly P v.asNumber := by
  unfold Value.asNumber
  split
  · exact .ok _
  · exact .error CoversValues.mismatch

lemma failsOnly_numberAsFloat : FailsOnly P n.asFloat := by
  unfold Number.asFloat
  split
  · exact .ok _
  · exact .error CoversValues.tooLarge

lemma failsOnly_asFloat : FailsOnly P v.asFloat :=
  .bind failsOnly_asNumber fun _ _ => failsOnly_numberAsFloat

lemma failsOnly_floor : FailsOnly P n.floor := by
  unfold Number.floor
  split
  · exact .ok _
  · split
    · exact .error (CoversValues.refused _)
    · exact .error CoversValues.tooLarge
    · exact .ok _

lemma failsOnly_meeting {op : Number → Number → Number} {m : Number} :
    FailsOnly P (Number.meeting op m n) :=
  .ite (fun _ => .error CoversValues.tooLarge) fun _ => .ok _

lemma failsOnly_combined {op : Number → Number → Number} :
    FailsOnly P (Value.combined op v w) := by
  refine .bind failsOnly_asNumber fun m _ => ?_
  refine .bind failsOnly_asNumber fun n _ => ?_
  exact .bind failsOnly_meeting fun k _ => .pure _

lemma failsOnly_plus : FailsOnly P (v.plus w) := by
  unfold Value.plus
  split
  · exact .ok _
  · exact .ok _
  · exact failsOnly_combined

lemma failsOnly_minus : FailsOnly P (v.minus w) :=
  failsOnly_combined

end Values

/-! ### Blocks -/

namespace Block

variable {α β : Type} {P : Fault → Prop}

section Values

variable [CoversValues P]

lemma failsOnly_measure {more : Nat} {sizes : List Nat} {values : List Value} :
    FailsOnly P (measure more sizes values) := by
  induction more generalizing sizes values with
  | zero =>
    unfold measure
    refine .ite (fun _ => .ok _) fun _ => ?_
    exact .ite (fun _ => .error (CoversValues.refused _)) fun _ => .error (CoversValues.refused _)
  | succ more ih =>
    unfold measure
    split
    · next more' _ _ hmore _ =>
      obtain rfl : more = more' := Nat.succ.inj hmore
      exact .ite (fun _ => ih) fun _ => .error (CoversValues.refused _)
    · refine .ite (fun _ => .ok _) fun _ => ?_
      exact .ite (fun _ => .error (CoversValues.refused _)) fun _ => .error (CoversValues.refused _)

lemma failsOnly_ofValues {values : List Value} : FailsOnly P (ofValues values) :=
  .bind failsOnly_measure fun _ _ => .pure _

lemma failsOnly_zip [Inhabited α] [Inhabited β] {a : Block α} {b : Block β} :
    FailsOnly P (a.zip b) := by
  unfold zip
  split
  · exact .ok _
  · exact .error (CoversValues.refused _)

lemma failsOnly_column {b : Block α} : FailsOnly P b.column := by
  unfold column
  split
  · exact .ok _
  · exact .ite (fun _ => .ok _) fun _ => .error CoversValues.mismatch
  · exact .ok _

end Values

lemma failsOnly_mapM {op : α → Except Fault β} {b : Block α} (h : ∀ a, FailsOnly P (op a)) :
    FailsOnly P (b.mapM op) :=
  .bind (.mapM fun a _ => h a) fun _ _ => .pure _

end Block

end NocRouting
