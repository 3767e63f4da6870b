import NocRouting.Constraint.Meaning
import NocRouting.Model.Draft
import NocRouting.Proofs.Outcome

/-!
# Drafts that are carried through

A draft that ends with a result was cut short nowhere, so every draft it is made of ended with a
result too, and its postings are theirs, one after the other.  The lemmas take a draft apart along
these lines:

* `Draft.bind_eq_ok` and `Draft.bind_eq_error` for two drafts in a row;
* `Draft.mapM_eq_ok` and `Draft.forEach_eq_ok` for the drafts of a list;
* `satisfies_flatMap` for what an assignment makes of postings that belong to the items of a list.
-/

namespace NocRouting

namespace Draft

variable {ν α β : Type}

instance : LawfulMonad (Draft ν) := by
  refine LawfulMonad.mk' (Draft ν) ?_ ?_ ?_
  · rintro α ⟨ps, _ | a⟩
    · simp [Functor.map, andThen]
    · simp [Functor.map, andThen, done]
  · intro α β a f
    simp [bind, andThen, pure, done]
  · rintro α β γ ⟨ps, _ | a⟩ f g
    · simp [bind, andThen]
    · simp only [bind, andThen]
      cases (f a).outcome <;> simp

/-! ### Drafts in a row -/

lemma bind_of_ok_eq {a : α} {qs ps : List (Posting ν)} {f : α → Draft ν β}
    {outcome : Except Fault β} : (⟨qs, .ok a⟩ : Draft ν α) >>= f = ⟨ps, outcome⟩ ↔
      ∃ ps₂, f a = ⟨ps₂, outcome⟩ ∧ ps = qs ++ ps₂ := by
  rw [bind_of_ok rfl]
  constructor
  · intro h
    obtain ⟨h₁, h₂⟩ := Draft.mk.injEq .. ▸ h
    exact ⟨(f a).postings, by rw [← h₂], h₁.symm⟩
  · rintro ⟨ps₂, h, rfl⟩
    rw [h]

/-- Two drafts in a row are carried through if both of them are. -/
lemma bind_eq_ok {d : Draft ν α} {f : α → Draft ν β} {ps : List (Posting ν)} {b : β} :
    d >>= f = ⟨ps, .ok b⟩ ↔
      ∃ a ps₁ ps₂, d = ⟨ps₁, .ok a⟩ ∧ f a = ⟨ps₂, .ok b⟩ ∧ ps = ps₁ ++ ps₂ := by
  obtain ⟨qs, e | a⟩ := d
  · rw [bind_of_error rfl]
    simp
  · rw [bind_of_ok_eq]
    simp

/-- Two drafts in a row fail with the first of them, or with the second one after it. -/
lemma bind_eq_error {d : Draft ν α} {f : α → Draft ν β} {ps : List (Posting ν)} {fault : Fault} :
    d >>= f = ⟨ps, .error fault⟩ ↔ d = ⟨ps, .error fault⟩ ∨
      ∃ a ps₁ ps₂, d = ⟨ps₁, .ok a⟩ ∧ f a = ⟨ps₂, .error fault⟩ ∧ ps = ps₁ ++ ps₂ := by
  obtain ⟨qs, e | a⟩ := d
  · rw [bind_of_error rfl]
    simp
  · rw [bind_of_ok_eq]
    simp

@[simp] lemma pure_eq_ok {a b : α} {ps : List (Posting ν)} :
    (pure a : Draft ν α) = ⟨ps, .ok b⟩ ↔ ps = [] ∧ a = b := by
  show (⟨[], .ok a⟩ : Draft ν α) = _ ↔ _
  simp [eq_comm]

@[simp] lemma post_eq_ok {p : Posting ν} {ps : List (Posting ν)} {u : Unit} :
    post p = ⟨ps, .ok u⟩ ↔ ps = [p] := by
  simp [post, eq_comm]

@[simp] lemma postAll_eq_ok {qs ps : List (Posting ν)} {u : Unit} :
    postAll qs = ⟨ps, .ok u⟩ ↔ ps = qs := by
  simp [postAll, eq_comm]

@[simp] lemma postings_lift {x : Except Fault α} : (liftM x : Draft ν α).postings = [] := rfl

@[simp] lemma lift_eq_ok {x : Except Fault α} {ps : List (Posting ν)} {a : α} :
    (liftM x : Draft ν α) = ⟨ps, .ok a⟩ ↔ ps = [] ∧ x = .ok a := by
  show (⟨[], x⟩ : Draft ν α) = _ ↔ _
  simp [eq_comm]

@[simp] lemma lift_eq_error {x : Except Fault α} {ps : List (Posting ν)} {fault : Fault} :
    (liftM x : Draft ν α) = ⟨ps, .error fault⟩ ↔ ps = [] ∧ x = .error fault := by
  show (⟨[], x⟩ : Draft ν α) = _ ↔ _
  simp [eq_comm]

lemma discard_eq_ok {d : Draft ν α} {ps : List (Posting ν)} {u : Unit} :
    (discard d : Draft ν Unit) = ⟨ps, .ok u⟩ ↔ ∃ a, d = ⟨ps, .ok a⟩ := by
  show (d >>= fun _ => pure ()) = _ ↔ _
  rw [bind_eq_ok]
  simp

lemma map_eq (f : α → β) (d : Draft ν α) : f <$> d = ⟨d.postings, d.outcome.map f⟩ := by
  obtain ⟨ps, fault | a⟩ := d
  · rfl
  · rw [map_eq_pure_bind, bind_of_ok rfl, postings_pure, List.append_nil]
    rfl

/-! ### The drafts of a list -/

lemma forEach_map {γ : Type} {f : α → Draft ν β} {g : γ → α} {as : List γ} :
    forEach f (as.map g) = forEach (fun a => f (g a)) as := by
  induction as with
  | nil => rfl
  | cons a as ih => rw [List.map_cons, forEach, forEach, ih]

/-- Results that come without postings are those of the items, one by one. -/
lemma mapM_eq_ok {f : α → Draft ν β} {as : List α} {ps : List (Posting ν)} {bs : List β}
    (hf : ∀ a qs b, f a = ⟨qs, .ok b⟩ → qs = []) (h : as.mapM f = ⟨ps, .ok bs⟩) :
    ps = [] ∧ List.Forall₂ (fun a b => f a = ⟨[], .ok b⟩) as bs := by
  induction as generalizing ps bs with
  | nil =>
    rw [List.mapM_nil, pure_eq_ok] at h
    obtain ⟨rfl, rfl⟩ := h
    exact ⟨rfl, .nil⟩
  | cons a as ih =>
    simp only [List.mapM_cons, bind_eq_ok, pure_eq_ok] at h
    obtain ⟨b, ps₁, ps₂, h₁, ⟨bs', ps₃, ps₄, h₂, ⟨rfl, rfl⟩, rfl⟩, rfl⟩ := h
    obtain ⟨rfl, hbs⟩ := ih h₂
    obtain rfl := hf a ps₁ b h₁
    exact ⟨rfl, .cons h₁ hbs⟩

/-- The postings are those of the items, one item after the other, and none of them fails. -/
lemma forEach_eq_ok {f : α → Draft ν β} {as : List α} {ps : List (Posting ν)} {bs : List β}
    (h : forEach f as = ⟨ps, .ok bs⟩) :
    ps = as.flatMap (fun a => (f a).postings) ∧ ∀ a ∈ as, ∃ b, (f a).outcome = .ok b := by
  induction as generalizing ps bs with
  | nil =>
    obtain ⟨rfl, -⟩ := pure_eq_ok.1 h
    simp
  | cons a as ih =>
    obtain ⟨b, ps₁, ps₂, h₁, h₂, rfl⟩ := bind_eq_ok.1 h
    obtain ⟨bs', ps₃, ps₄, h₃, h₄, rfl⟩ := bind_eq_ok.1 h₂
    obtain ⟨rfl, -⟩ := pure_eq_ok.1 h₄
    obtain ⟨rfl, hbs⟩ := ih h₃
    refine ⟨by simp [h₁], ?_⟩
    intro a' ha'
    rcases List.mem_cons.1 ha' with rfl | ha'
    · exact ⟨b, by rw [h₁]⟩
    · exact hbs a' ha'

/-! ### What is posted in any case -/

section Postings

variable {P : Posting ν → Prop}

/-- What is posted by two drafts in a row, whether the first is carried through or not. -/
lemma forall_mem_bind {d : Draft ν α} {f : α → Draft ν β} (hd : ∀ p ∈ d.postings, P p)
    (hf : ∀ a, ∀ p ∈ (f a).postings, P p) : ∀ p ∈ (d >>= f).postings, P p := by
  obtain ⟨ps, e | a⟩ := d
  · rw [bind_of_error rfl]
    exact hd
  · rw [bind_of_ok rfl]
    exact List.forall_mem_append.2 ⟨hd, hf a⟩

lemma forall_mem_mapM {f : α → Draft ν β} {as : List α}
    (h : ∀ a ∈ as, ∀ p ∈ (f a).postings, P p) : ∀ p ∈ (as.mapM f).postings, P p := by
  induction as with
  | nil => simp
  | cons a as ih =>
    rw [List.mapM_cons]
    refine forall_mem_bind (h a (by simp)) fun b => forall_mem_bind ?_ fun bs => by simp
    exact ih fun a' ha' => h a' (by simp [ha'])

lemma forall_mem_forEach {f : α → Draft ν β} {as : List α}
    (h : ∀ a ∈ as, ∀ p ∈ (f a).postings, P p) : ∀ p ∈ (forEach f as).postings, P p := by
  induction as with
  | nil => simp [forEach, done]
  | cons a as ih =>
    refine forall_mem_bind (h a (by simp)) fun b => forall_mem_bind ?_ fun bs => by simp [done]
    exact ih fun a' ha' => h a' (by simp [ha'])

end Postings

end Draft

/-! ### What is demanded of an assignment -/

section Satisfies

variable {ν α : Type} {σ : ν → Int}

@[simp] lemma satisfies_nil : Satisfies σ [] := by
  simp [Satisfies]

@[simp] lemma satisfies_cons {p : Posting ν} {ps : List (Posting ν)} :
    Satisfies σ (p :: ps) ↔ p.admits σ = true ∧ Satisfies σ ps := by
  simp [Satisfies]

lemma satisfies_map {f : α → Posting ν} {as : List α} :
    Satisfies σ (as.map f) ↔ ∀ a ∈ as, (f a).admits σ = true := by
  simp [Satisfies]

lemma satisfies_flatMap {f : α → List (Posting ν)} {as : List α} :
    Satisfies σ (as.flatMap f) ↔ ∀ a ∈ as, Satisfies σ (f a) := by
  simp only [Satisfies, List.mem_flatMap]
  constructor
  · intro h a ha p hp
    exact h p ⟨a, ha, hp⟩
  · rintro h p ⟨a, ha, hp⟩
    exact h a ha p hp

end Satisfies

end NocRouting
