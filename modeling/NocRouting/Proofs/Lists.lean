import Mathlib.Data.List.Chain
import Mathlib.Data.List.Forall2
import Mathlib.Data.List.Nodup
import Mathlib.Logic.Equiv.Defs
import Mathlib.Tactic.Common

/-!
# Lists

Flows, their ends and their paths come in lists that run side by side.  The first lemmas pass from
what holds of all items to what holds of the lists, and back.

Routers are told apart by their identifiers and their positions, so at most one of them is looked
for: `find?_eq_some_iff_mem` finds it.

Items in another order are given by where they stood: `perm_of_reordered` makes a permutation of it.

Coordinates and arcs are told apart by what they stand for, and only the first of those that stand
for the same thing counts: `firstsBy` keeps the first items, which have pairwise different keys and
all the keys there are.
-/

namespace NocRouting

/-! ### Lists side by side -/

section Forall

variable {α β : Type} {R : α → β → Prop} {as : List α} {bs : List β}

/-- If every item has a partner, there is a list of partners. -/
lemma exists_forall₂ (h : ∀ a ∈ as, ∃ b, R a b) : ∃ bs, List.Forall₂ R as bs := by
  induction as with
  | nil => exact ⟨[], .nil⟩
  | cons a as ih =>
    obtain ⟨b, hb⟩ := h a (by simp)
    obtain ⟨bs, hbs⟩ := ih fun a ha => h a (by simp [ha])
    exact ⟨b :: bs, .cons hb hbs⟩

lemma exists_right_of_mem (h : List.Forall₂ R as bs) {a : α} (ha : a ∈ as) : ∃ b ∈ bs, R a b := by
  induction h with
  | nil => simp at ha
  | @cons a' b as bs hab _ ih =>
    rcases List.mem_cons.1 ha with rfl | ha
    · exact ⟨b, by simp, hab⟩
    · obtain ⟨b', hb', hab'⟩ := ih ha
      exact ⟨b', by simp [hb'], hab'⟩

lemma exists_left_of_mem (h : List.Forall₂ R as bs) {b : β} (hb : b ∈ bs) : ∃ a ∈ as, R a b :=
  exists_right_of_mem (R := flip R) h.flip hb

/-- Partners stand at the same position. -/
lemma forall₂_getElem? (h : List.Forall₂ R as bs) :
    List.Forall₂ (fun a b => R a b ∧ ∃ i : Nat, as[i]? = some a ∧ bs[i]? = some b) as bs := by
  induction h with
  | nil => exact .nil
  | cons hab _ ih =>
    refine .cons ⟨hab, 0, rfl, rfl⟩ (ih.imp ?_)
    rintro a' b' ⟨hab', i, ha', hb'⟩
    exact ⟨hab', i + 1, by simpa using ha', by simpa using hb'⟩

lemma exists_getElem?_of_forall₂ (h : List.Forall₂ R as bs) {i : Nat} {a : α}
    (ha : as[i]? = some a) : ∃ b, bs[i]? = some b ∧ R a b := by
  induction h generalizing i with
  | nil => simp at ha
  | @cons a' b as bs hab _ ih =>
    cases i with
    | zero =>
      obtain rfl : a' = a := by simpa using ha
      exact ⟨b, rfl, hab⟩
    | succ i =>
      obtain ⟨b', hb', hab'⟩ := ih (by simpa using ha)
      exact ⟨b', by simpa using hb', hab'⟩

/-- Lists run side by side if they do at every position. -/
lemma forall₂_iff_getElem? :
    List.Forall₂ R as bs ↔ ∀ i : Nat, Option.Rel R as[i]? bs[i]? := by
  constructor
  · intro h i
    induction h generalizing i with
    | nil => exact .none
    | cons hab _ ih =>
      cases i with
      | zero => exact .some hab
      | succ i => exact ih i
  · intro h
    induction as generalizing bs with
    | nil =>
      cases bs with
      | nil => exact .nil
      | cons b bs => cases h 0
    | cons a as ih =>
      cases bs with
      | nil => cases h 0
      | cons b bs =>
        have hab : R a b := by
          cases h 0
          assumption
        exact .cons hab (ih fun i => h (i + 1))

/-- What items stand for is listed side by side if it is for every item. -/
lemma forall₂_flatMap {γ δ : Type} {S : γ → δ → Prop} {f : α → List γ} {g : α → List δ}
    (h : ∀ a ∈ as, List.Forall₂ S (f a) (g a)) : List.Forall₂ S (as.flatMap f) (as.flatMap g) := by
  induction as with
  | nil => exact .nil
  | cons a as ih =>
    rw [List.flatMap_cons, List.flatMap_cons]
    exact List.rel_append (h a List.mem_cons_self) (ih fun b hb => h b (List.mem_cons_of_mem a hb))

/-- Partners of the same items are partners of each other. -/
lemma forall₂_of_same {γ : Type} {S : α → γ → Prop} {cs : List γ} (h : List.Forall₂ R as bs)
    (h' : List.Forall₂ S as cs) : List.Forall₂ (fun b c => ∃ a, R a b ∧ S a c) bs cs := by
  induction h generalizing cs with
  | nil =>
    cases h'
    exact .nil
  | cons hab _ ih =>
    obtain _ | ⟨hac, hrest⟩ := h'
    exact .cons ⟨_, hab, hac⟩ (ih hrest)

/-- Items are told apart as their partners are. -/
lemma pairwise_of_forall₂ {S : α → α → Prop} {T : β → β → Prop} (h : List.Forall₂ R as bs)
    (hST : ∀ a a' b b', R a b → R a' b' → T b b' → S a a') (hbs : bs.Pairwise T) :
    as.Pairwise S := by
  induction h with
  | nil => exact .nil
  | @cons a b as bs hab hrest ih =>
    obtain ⟨hb, hpairs⟩ := List.pairwise_cons.1 hbs
    refine List.pairwise_cons.2 ⟨fun a' ha' => ?_, ih hpairs⟩
    obtain ⟨b', hb', hab'⟩ := exists_right_of_mem hrest ha'
    exact hST a a' b b' hab hab' (hb b' hb')

/-- Partners can stand in for each other in a list of pairs. -/
lemma map_zip_of_forall₂ {γ δ : Type} (h : List.Forall₂ R as bs) {f : γ × α → δ} {g : γ × β → δ}
    (hfg : ∀ x a b, R a b → f (x, a) = g (x, b)) (xs : List γ) :
    (xs.zip as).map f = (xs.zip bs).map g := by
  induction h generalizing xs with
  | nil => simp
  | cons hab _ ih =>
    cases xs with
    | nil => rfl
    | cons x xs => simp [hfg x _ _ hab, ih]

end Forall

/-! ### Chains and numbered items -/

section Chain

variable {α : Type}

/-- A chain that leads back from its last item to its first can be read from any item on. -/
lemma isChain_rotate {R : α → α → Prop} {before behind : List α} {x : α}
    (h : (before ++ x :: behind).IsChain R)
    (hback : ∀ v ∈ (before ++ x :: behind).getLast?, ∀ w ∈ (before ++ x :: behind).head?, R v w) :
    (x :: behind ++ before).IsChain R := by
  obtain ⟨hbefore, hbehind, -⟩ := List.isChain_append.1 h
  refine List.isChain_append.2 ⟨hbehind, hbefore, fun v hv w hw => hback v ?_ w ?_⟩
  · rw [List.getLast?_append, Option.mem_def.1 hv]
    rfl
  · rw [List.head?_append, Option.mem_def.1 hw]
    rfl

lemma zipIdx_take (as : List α) (n start : Nat) :
    (as.take n).zipIdx start = as.zip (List.range' start n) := by
  induction as generalizing n start with
  | nil => simp
  | cons a as ih =>
    cases n with
    | zero => simp
    | succ n => simp [List.range'_succ, ih]

end Chain

/-! ### Items that are told apart -/

section Apart

variable {α : Type} {as : List α} {a b : α}

/-- Items of a list that are not kept apart, either way round, are the same. -/
lemma eq_of_pairwise {R : α → α → Prop} (h : as.Pairwise R) (ha : a ∈ as) (hb : b ∈ as)
    (hab : ¬ R a b) (hba : ¬ R b a) : a = b := by
  induction h with
  | nil => simp at ha
  | cons hx _ ih =>
    rcases List.mem_cons.1 ha with rfl | ha' <;> rcases List.mem_cons.1 hb with rfl | hb'
    · rfl
    · exact absurd (hx b hb') hab
    · exact absurd (hx a ha') hba
    · exact ih ha' hb'

/-- Where at most one item fits, it is the one that is found. -/
lemma find?_eq_some_iff_mem {p : α → Bool}
    (h : ∀ x ∈ as, ∀ y ∈ as, p x = true → p y = true → x = y) :
    as.find? p = some a ↔ a ∈ as ∧ p a = true := by
  constructor
  · intro hfind
    exact ⟨List.mem_of_find?_eq_some hfind, List.find?_some hfind⟩
  · rintro ⟨ha, hpa⟩
    cases hfind : as.find? p with
    | none => simpa [hpa] using List.find?_eq_none.1 hfind a ha
    | some b =>
      rw [h b (List.mem_of_find?_eq_some hfind) a ha (List.find?_some hfind) hpa]

/-- If all other items stand for nothing, the items stand for what that one does. -/
lemma flatMap_eq_of_mem {β : Type} {f : α → List β} (h : as.Nodup) (ha : a ∈ as)
    (hothers : ∀ b ∈ as, b ≠ a → f b = []) : as.flatMap f = f a := by
  induction h with
  | nil => simp at ha
  | @cons b as hb hrest ih =>
    rw [List.flatMap_cons]
    rcases List.mem_cons.1 ha with rfl | ha'
    · have hnone : as.flatMap f = [] := List.flatMap_eq_nil_iff.2 fun c hc =>
        hothers c (List.mem_cons_of_mem _ hc) (hb c hc).symm
      rw [hnone, List.append_nil]
    · rw [hothers b List.mem_cons_self (hb a ha'), List.nil_append]
      exact ih ha' fun c hc => hothers c (List.mem_cons_of_mem _ hc)

/-- If items are told apart by something, they are told apart by a name for it. -/
lemma nodup_map_of_injective {β γ : Type} {f : α → β} {g : β → γ} (hg : Function.Injective g)
    (h : (as.map f).Nodup) : (as.map fun a => g (f a)).Nodup := by
  rw [← Function.comp_def, ← List.map_map]
  exact h.map hg

/-- What stands for different owners comes only once, if it tells whose it is. -/
lemma nodup_flatMap_of_owner {β κ : Type} {f : α → List β} {owner : α → κ}
    (has : (as.map owner).Nodup) (hf : ∀ a ∈ as, (f a).Nodup)
    (howner : ∀ a ∈ as, ∀ b ∈ as, ∀ x ∈ f a, x ∈ f b → owner a = owner b) :
    (as.flatMap f).Nodup := by
  refine List.nodup_flatMap.2 ⟨hf, (List.pairwise_map.1 has).imp_of_mem ?_⟩
  intro a b ha hb hne
  refine List.disjoint_left.2 fun x hxa hxb => ?_
  exact hne (howner a ha b hb x hxa hxb)

end Apart

/-! ### Items in another order -/

section Order

variable {α β : Type} {as : List α} {bs : List β}

lemma filterMap_range (as : List α) (f : Nat → α → β) :
    (List.range as.length).filterMap (fun i => (as[i]?).map (f i)) =
      as.zipIdx.map fun (a, i) => f i a := by
  induction as using List.reverseRecOn with
  | nil => rfl
  | append_singleton as a ih =>
    have hbefore : (List.range as.length).filterMap (fun i => ((as ++ [a])[i]?).map (f i)) =
        (List.range as.length).filterMap fun i => (as[i]?).map (f i) := by
      refine List.filterMap_congr fun i hi => ?_
      rw [List.getElem?_append_left (List.mem_range.1 hi)]
    rw [List.length_append, List.length_singleton, List.range_succ, List.filterMap_append, hbefore,
      ih, List.zipIdx_append, List.map_append]
    simp

/-- Items that stand at other positions are the same items. -/
lemma perm_of_reordered {π : Equiv.Perm Nat} {f : Nat → α → β}
    (h : ∀ i : Nat, bs[i]? = (as[π i]?).map (f i)) :
    bs.Perm (as.zipIdx.map fun (a, j) => f (π.symm j) a) := by
  have hlt : ∀ i, i < bs.length ↔ π i < as.length := by
    intro i
    have hsome : (bs[i]?).isSome = ((as[π i]?).map (f i)).isSome := by rw [h i]
    rw [Option.isSome_map, Bool.eq_iff_iff] at hsome
    simpa only [isSome_getElem?, decide_eq_true_eq] using hsome
  have hpositions : ((List.range bs.length).map π).Perm (List.range as.length) := by
    refine (List.perm_ext_iff_of_nodup (List.nodup_range.map π.injective) List.nodup_range).2
      fun j => ?_
    rw [List.mem_map, List.mem_range]
    constructor
    · rintro ⟨i, hi, rfl⟩
      exact (hlt i).1 (List.mem_range.1 hi)
    · intro hj
      refine ⟨π.symm j, List.mem_range.2 ((hlt _).2 ?_), π.apply_symm_apply j⟩
      rwa [π.apply_symm_apply]
  have hbs : bs = ((List.range bs.length).map π).filterMap
      fun j => (as[j]?).map (f (π.symm j)) := by
    have hself : (List.range bs.length).filterMap (fun i => bs[i]?) = bs := by
      simpa using filterMap_range bs fun _ b => b
    rw [List.filterMap_map]
    conv_lhs => rw [← hself]
    refine List.filterMap_congr fun i _ => ?_
    rw [h i, Function.comp_apply, π.symm_apply_apply]
  rw [← filterMap_range as fun j => f (π.symm j)]
  conv_lhs => rw [hbs]
  exact hpositions.filterMap _

end Order

/-- What is found first depends on the items of the list only. -/
lemma findSome?_congr {α β : Type} {as : List α} {f g : α → Option β} (h : ∀ a ∈ as, f a = g a) :
    as.findSome? f = as.findSome? g := by
  induction as with
  | nil => rfl
  | cons a as ih =>
    obtain ⟨ha, has⟩ := List.forall_mem_cons.1 h
    rw [List.findSome?_cons, List.findSome?_cons, ha, ih has]

/-! ### The first items of their kind -/

/-- The first items of their kind: some given ones, and those that are related to none before. -/
def firstsBy {α : Type} (r : α → α → Bool) (seen as : List α) : List α :=
  as.foldl (fun seen a => if seen.any (r a) then seen else seen ++ [a]) seen

section Firsts

variable {α κ : Type} [DecidableEq κ] {r : α → α → Bool} {key : α → κ} {seen as : List α}

lemma firstsBy_subset : firstsBy r seen as ⊆ seen ++ as := by
  induction as generalizing seen with
  | nil => simp [firstsBy]
  | cons a as ih =>
    rw [firstsBy, List.foldl_cons]
    refine List.Subset.trans ih ?_
    split <;> simp

/-- Items are related exactly if they have the same key. -/
def IsKey (key : α → κ) (r : α → α → Bool) (as : List α) : Prop :=
  ∀ a ∈ as, ∀ b ∈ as, r a b = true ↔ key a = key b

lemma IsKey.firstsBy_cons {a : α} (h : IsKey key r (seen ++ a :: as)) :
    firstsBy r seen (a :: as) =
      firstsBy r (if key a ∈ seen.map key then seen else seen ++ [a]) as := by
  have hany : seen.any (r a) = true ↔ key a ∈ seen.map key := by
    rw [List.any_eq_true, List.mem_map]
    refine exists_congr fun b => and_congr_right fun hb => ?_
    rw [h a (by simp) b (by simp [hb]), eq_comm]
  rw [firstsBy, List.foldl_cons]
  simp only [hany]
  rfl

lemma IsKey.cons {a : α} (h : IsKey key r (seen ++ a :: as)) :
    IsKey key r ((if key a ∈ seen.map key then seen else seen ++ [a]) ++ as) := by
  have hsub : (if key a ∈ seen.map key then seen else seen ++ [a]) ++ as ⊆ seen ++ a :: as := by
    split <;> simp
  exact fun b hb c hc => h b (hsub hb) c (hsub hc)

/-- No two of the first items have the same key. -/
lemma IsKey.firstsBy_nodup (h : IsKey key r (seen ++ as)) (hseen : (seen.map key).Nodup) :
    ((firstsBy r seen as).map key).Nodup := by
  induction as generalizing seen with
  | nil => exact hseen
  | cons a as ih =>
    rw [h.firstsBy_cons]
    refine ih h.cons ?_
    split
    · exact hseen
    · next ha =>
      rw [List.map_append, List.nodup_append]
      refine ⟨hseen, by simp, ?_⟩
      rintro k hk k' hk' rfl
      obtain rfl : k = key a := by simpa using hk'
      exact ha hk

/-- The first items have all the keys. -/
lemma IsKey.mem_map_firstsBy (h : IsKey key r (seen ++ as)) {k : κ} :
    k ∈ (firstsBy r seen as).map key ↔ k ∈ (seen ++ as).map key := by
  refine ⟨fun hk => List.map_subset key firstsBy_subset hk, ?_⟩
  induction as generalizing seen with
  | nil => simp [firstsBy]
  | cons a as ih =>
    intro hk
    rw [h.firstsBy_cons]
    refine ih h.cons ?_
    -- the key of the first item is not lost: either it was there before or it is added
    by_cases ha : key a ∈ seen.map key
    · rw [if_pos ha]
      simp only [List.map_append, List.map_cons, List.mem_append, List.mem_cons] at hk ⊢
      rcases hk with hk | rfl | hk
      · exact Or.inl hk
      · exact Or.inl ha
      · exact Or.inr hk
    · rw [if_neg ha]
      simpa using hk

end Firsts

end NocRouting
