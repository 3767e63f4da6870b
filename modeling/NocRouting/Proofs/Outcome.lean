import Mathlib.Data.List.Forall2
import Mathlib.Tactic.Common

/-!
# Operations that may fail

An operation that is made of several ends with a result exactly if all of them do.  The lemmas
take a result apart into those it came from.

Lists are worked through item by item.  `Except.mapM_eq_ok` takes apart the results for all items;
`Except.foldlM_induction` says what holds after all items have been added to something, and
`Except.exists_foldlM` that they can be.
-/

namespace NocRouting

namespace Except

variable {ε α β : Type}

/-- After a result comes what is done with it. -/
lemma ok_bind {a : α} {f : α → Except ε β} : (.ok a : Except ε α) >>= f = f a := rfl

/-- After a fault comes nothing. -/
lemma error_bind {e : ε} {f : α → Except ε β} : (.error e : Except ε α) >>= f = .error e := rfl

lemma bind_eq_ok {x : Except ε α} {f : α → Except ε β} {b : β} :
    x >>= f = .ok b ↔ ∃ a, x = .ok a ∧ f a = .ok b := by
  cases x <;> simp [bind, Except.bind]

/-- A sequence fails with its first operation, or with the second one after that. -/
lemma bind_eq_error {x : Except ε α} {f : α → Except ε β} {e : ε} :
    x >>= f = .error e ↔ x = .error e ∨ ∃ a, x = .ok a ∧ f a = .error e := by
  cases x <;> simp [bind, Except.bind]

lemma map_eq_ok {x : Except ε α} {f : α → β} {b : β} :
    x.map f = .ok b ↔ ∃ a, x = .ok a ∧ f a = b := by
  cases x <;> simp [Except.map]

lemma map_eq_error {x : Except ε α} {f : α → β} {e : ε} : x.map f = .error e ↔ x = .error e := by
  cases x <;> simp [Except.map]

@[simp] lemma pure_eq_ok {a b : α} : (pure a : Except ε α) = .ok b ↔ a = b := by
  simp [pure, Except.pure]

@[simp] lemma throw_ne_ok {e : ε} {b : α} : (throw e : Except ε α) ≠ .ok b := by
  simp [throw, throwThe, MonadExceptOf.throw]

/-- An outcome is a result if something can be told of the result. -/
lemma exists_of_toOption_map {x : Except ε α} {f : α → β} {b : β}
    (h : x.toOption.map f = some b) : ∃ a, x = .ok a ∧ f a = b := by
  cases x with
  | error e => simp [Except.toOption] at h
  | ok a => exact ⟨a, rfl, by simpa [Except.toOption] using h⟩

/-- Nothing comes after a fault. -/
lemma throw_bind_ne_ok {e : ε} {f : α → Except ε β} {b : β} : throw e >>= f ≠ .ok b := by
  rw [ne_eq, bind_eq_ok]
  simp

/-! ### Lists -/

/-- There are results for a list exactly if there is one for every item. -/
lemma mapM_eq_ok {f : α → Except ε β} {as : List α} {bs : List β} :
    as.mapM f = .ok bs ↔ List.Forall₂ (fun a b => f a = .ok b) as bs := by
  induction as generalizing bs with
  | nil =>
    rw [List.mapM_nil, pure_eq_ok, List.forall₂_nil_left_iff, eq_comm]
  | cons a as ih =>
    rw [List.mapM_cons, bind_eq_ok, List.forall₂_cons_left_iff]
    simp only [bind_eq_ok, pure_eq_ok]
    constructor
    · rintro ⟨b, hb, bs, hbs, rfl⟩
      exact ⟨b, bs, hb, ih.1 hbs, rfl⟩
    · rintro ⟨b, bs, hb, hbs, rfl⟩
      exact ⟨b, hb, bs, ih.2 hbs, rfl⟩

/-- If there are no results for a list, there is none for some item. -/
lemma exists_of_mapM_eq_error {f : α → Except ε β} {as : List α} {e : ε}
    (h : as.mapM f = .error e) : ∃ a ∈ as, f a = .error e := by
  induction as with
  | nil => cases h
  | cons a as ih =>
    rw [List.mapM_cons, bind_eq_error] at h
    rcases h with ha | ⟨b, -, h⟩
    · exact ⟨a, List.mem_cons_self, ha⟩
    · rcases bind_eq_error.1 h with has | ⟨bs, -, h⟩
      · obtain ⟨a', ha', hfault⟩ := ih has
        exact ⟨a', List.mem_cons_of_mem a ha', hfault⟩
      · cases h

/-- If there is a result for each of two items side by side, there are results for two lists. -/
lemma exists_mapM_zip {γ : Type} {f : α × β → Except ε γ} {S : α → γ → Prop} {as : List α}
    {bs : List β} (h : List.Forall₂ (fun a b => ∃ c, f (a, b) = .ok c ∧ S a c) as bs) :
    ∃ cs, (as.zip bs).mapM f = .ok cs ∧ List.Forall₂ S as cs := by
  induction h with
  | nil => exact ⟨[], rfl, .nil⟩
  | cons hab _ ih =>
    obtain ⟨c, hc, hS⟩ := hab
    obtain ⟨cs, hcs, hrest⟩ := ih
    refine ⟨c :: cs, ?_, .cons hS hrest⟩
    rw [List.zip_cons_cons, List.mapM_cons, hc, ok_bind, hcs]
    rfl

/-- If the results for two items side by side can be worked out from something, those for two lists
can. -/
lemma exists_mapM_zipWith {γ δ : Type} {f : α × β → Except ε δ} {g : α → γ → δ} {S : α → γ → Prop}
    {T : β → γ → Prop} {as : List α} {bs : List β}
    (h : List.Forall₂ (fun a b => ∃ c, f (a, b) = .ok (g a c) ∧ S a c ∧ T b c) as bs) :
    ∃ cs, (as.zip bs).mapM f = .ok (List.zipWith g as cs) ∧ List.Forall₂ S as cs ∧
      List.Forall₂ T bs cs := by
  induction h with
  | nil => exact ⟨[], rfl, .nil, .nil⟩
  | cons hab _ ih =>
    obtain ⟨c, hc, hS, hT⟩ := hab
    obtain ⟨cs, hcs, hSs, hTs⟩ := ih
    refine ⟨c :: cs, ?_, .cons hS hSs, .cons hT hTs⟩
    rw [List.zip_cons_cons, List.mapM_cons, hc, ok_bind, hcs]
    rfl

section Fold

variable {σ : Type} {f : σ → α → Except ε σ} {as : List α} {s s' : σ}

/-- What holds before the first item and is kept item by item holds after all items. -/
lemma foldlM_induction {P : List α → σ → Prop} (h : as.foldlM f s = .ok s') (hnil : P [] s)
    (hstep : ∀ done a s s', P done s → f s a = .ok s' → P (done ++ [a]) s') : P as s' := by
  have hrun : ∀ rest done s, P done s → rest.foldlM f s = .ok s' → P (done ++ rest) s' := by
    intro rest
    induction rest with
    | nil =>
      intro done s hdone hrest
      obtain rfl := pure_eq_ok.1 hrest
      rwa [List.append_nil]
    | cons a rest ih =>
      intro done s hdone hrest
      rw [List.foldlM_cons, bind_eq_ok] at hrest
      obtain ⟨s₁, hs₁, hrest⟩ := hrest
      rw [List.append_cons]
      exact ih (done ++ [a]) s₁ (hstep done a s s₁ hdone hs₁) hrest
  exact hrun as [] s hnil h

/-- If every item can be added, as long as something holds that adding keeps, then all can. -/
lemma exists_foldlM {P : σ → Prop} (hs : P s)
    (hstep : ∀ a ∈ as, ∀ s, P s → ∃ s', f s a = .ok s' ∧ P s') :
    ∃ s', as.foldlM f s = .ok s' ∧ P s' := by
  induction as generalizing s with
  | nil => exact ⟨s, rfl, hs⟩
  | cons a as ih =>
    obtain ⟨s₁, hs₁, hP₁⟩ := hstep a List.mem_cons_self s hs
    obtain ⟨s₂, hs₂, hP₂⟩ := ih hP₁ fun b hb => hstep b (List.mem_cons_of_mem a hb)
    exact ⟨s₂, by rw [List.foldlM_cons, hs₁, ok_bind, hs₂], hP₂⟩

end Fold

end Except

end NocRouting
