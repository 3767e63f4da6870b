import NocRouting.Proofs.Lists
import NocRouting.Proofs.Model.Families

/-!
# Links as arcs

The circuit of a flow has one arc for each ordered pair of routers that some link joins, links into
the source and out of the sink apart.  Parallel links share the arc, which then has a variable of
its own.

* `exists_join` says that every link which can be used is behind an arc, and `joins_nodup` that no
  two arcs join the same routers.
* `satisfies_joiningArc` says what is demanded of an arc variable: it counts the links taken behind
  it.
* `joiningArc_holds_iff` is what follows: an arc is used exactly if one of its links is taken.
-/

namespace NocRouting

open RoutingModel

/-! ### Ends -/

/-- The routers that a link joins, as nodes of a circuit. -/
def Link.ends (l : Link) : Int × Int :=
  (l.source, l.sink)

/-- The nodes that an arc joins. -/
def Arc.ends {ν : Type} (x : Arc ν) : Int × Int :=
  (x.source, x.sink)

lemma Link.ends_eq_iff {k l : Link} : k.ends = l.ends ↔ k.source = l.source ∧ k.sink = l.sink := by
  simp only [ends, Prod.mk.injEq, Int.natCast_inj]

lemma areParallel_iff {k l : Link} : areParallel k l = true ↔ k.ends = l.ends := by
  simp [areParallel, Link.ends_eq_iff]

/-- The links that a flow from one router to another can use. -/
def Topology.usable (t : Topology) (a b : Nat) : List Link :=
  t.links.filter fun l => l.sink != a && l.source != b

lemma Topology.mem_usable {t : Topology} {a b : Nat} {l : Link} :
    l ∈ t.usable a b ↔ l ∈ t.links ∧ l.sink ≠ a ∧ l.source ≠ b := by
  simp [usable]

/-! ### The first of parallel links -/

/-- The first links of their kind: some given ones, and those that are parallel to none before. -/
def firstsFrom (seen links : List Link) : List Link :=
  links.foldl (fun seen l => if seen.any (areParallel l) then seen else seen ++ [l]) seen

section Firsts

variable {seen links : List Link}

lemma isKey_ends : IsKey Link.ends areParallel links :=
  fun _ _ _ _ => areParallel_iff

lemma firstsFrom_subset : firstsFrom seen links ⊆ seen ++ links :=
  firstsBy_subset

/-- No two of the first links are parallel. -/
lemma firstsFrom_nodup (h : (seen.map (·.ends)).Nodup) :
    ((firstsFrom seen links).map (·.ends)).Nodup :=
  isKey_ends.firstsBy_nodup h

/-- Every link is parallel to one of the first. -/
lemma mem_ends_firstsFrom {e : Int × Int} (he : e ∈ (seen ++ links).map (·.ends)) :
    e ∈ (firstsFrom seen links).map (·.ends) :=
  isKey_ends.mem_map_firstsBy.2 he

end Firsts

/-! ### Arcs -/

section Joins

variable {t : Topology} {a b : Nat}

lemma joins_eq_map : ∃ firsts : List Link, (firsts.Perm (firstsFrom [] (t.usable a b))) ∧
    joins t a b = firsts.map fun k =>
      (k, (t.usable a b).filter fun l => areParallel k l && l.index != k.index) :=
  ⟨_, List.mergeSort_perm _ _, rfl⟩

/-- No two arcs join the same routers. -/
lemma joins_nodup : ((joins t a b).map (·.1.ends)).Nodup := by
  obtain ⟨firsts, hperm, hjoins⟩ := joins_eq_map (t := t) (a := a) (b := b)
  rw [hjoins, List.map_map]
  exact ((hperm.map Link.ends).nodup_iff).2 (firstsFrom_nodup (by simp))

/-- Every link that can be used is behind an arc. -/
lemma exists_join {l : Link} (hl : l ∈ t.usable a b) : ∃ j ∈ joins t a b, j.1.ends = l.ends := by
  obtain ⟨firsts, hperm, hjoins⟩ := joins_eq_map (t := t) (a := a) (b := b)
  have hends : l.ends ∈ ([] ++ t.usable a b).map Link.ends := List.mem_map_of_mem hl
  obtain ⟨k, hk, hkl⟩ := List.mem_map.1 (mem_ends_firstsFrom hends)
  rw [hjoins]
  exact ⟨_, List.mem_map_of_mem (hperm.mem_iff.2 hk), hkl⟩

/-- The links behind an arc are those that can be used between its routers. -/
lemma Topology.IsSound.mem_join (ht : t.IsSound) {j : Link × List Link} (hj : j ∈ joins t a b)
    {l : Link} : l ∈ j.1 :: j.2 ↔ l ∈ t.usable a b ∧ l.ends = j.1.ends := by
  obtain ⟨firsts, hperm, hjoins⟩ := joins_eq_map (t := t) (a := a) (b := b)
  rw [hjoins] at hj
  obtain ⟨k, hk, rfl⟩ := List.mem_map.1 hj
  have hku : k ∈ t.usable a b := by simpa using firstsFrom_subset (hperm.mem_iff.1 hk)
  simp only [List.mem_cons, List.mem_filter, Bool.and_eq_true, areParallel_iff, bne_iff_ne]
  constructor
  · rintro (rfl | ⟨hl, hends, -⟩)
    · exact ⟨hku, rfl⟩
    · exact ⟨hl, hends.symm⟩
  · rintro ⟨hl, hends⟩
    by_cases hi : l.index = k.index
    · exact Or.inl (ht.link_ext (Topology.mem_usable.1 hl).1 (Topology.mem_usable.1 hku).1 hi)
    · exact Or.inr ⟨hl, hends.symm, hi⟩

lemma Topology.IsSound.nodup_join (ht : t.IsSound) {j : Link × List Link}
    (hj : j ∈ joins t a b) : (j.1 :: j.2).Nodup := by
  obtain ⟨firsts, hperm, hjoins⟩ := joins_eq_map (t := t) (a := a) (b := b)
  rw [hjoins] at hj
  obtain ⟨k, hk, rfl⟩ := List.mem_map.1 hj
  refine List.nodup_cons.2 ⟨by simp, ?_⟩
  exact ((List.Nodup.of_map _ ht.links_nodup).filter _).filter _

end Joins

/-! ### Arc variables -/

section Arcs

variable {t : Topology} {σ : RoutingVar → Int} {flow a b : Nat} {j : Link × List Link}

lemma Topology.IsSound.ends_joiningArc (ht : t.IsSound) (hj : j ∈ joins t a b) :
    (joiningArc flow j).2.ends = j.1.ends := by
  have hk := (Topology.mem_usable.1 ((ht.mem_join hj).1 (List.mem_cons_self (a := j.1))).1).1
  obtain ⟨k, _ | ⟨l, others⟩⟩ := j <;>
    simp [joiningArc, Arc.ends, Arc.source, Arc.sink, Link.ends, ht.shownSource k hk,
      ht.shownSink k hk]

/-- The variable of an arc, if it has one, is the number of links taken behind it. -/
lemma satisfies_joiningArc (h : IsTruthOn t σ flow) (ht : t.IsSound) (hj : j ∈ joins t a b) :
    Satisfies σ (joiningArc flow j).1 ↔ j.2 = [] ∨
      (σ (.arc flow j.1.shownSource j.1.shownSink) = 0 ∨
        σ (.arc flow j.1.shownSource j.1.shownSink) = 1) ∧
      σ (.arc flow j.1.shownSource j.1.shownSink) =
        ((j.1 :: j.2).countP fun l => σ (.link flow l.index) != 0 : Nat) := by
  have htruth : ∀ l ∈ j.1 :: j.2, σ (.link flow l.index) = 0 ∨ σ (.link flow l.index) = 1 :=
    fun l hl => h l (Topology.mem_usable.1 ((ht.mem_join hj).1 hl).1).1
  obtain ⟨k, _ | ⟨l, others⟩⟩ := j
  · simp [joiningArc]
  · have hvar : (sumOf [.arc flow k.shownSource k.shownSink]).value σ =
        σ (.arc flow k.shownSource k.shownSink) := by
      simp [sumOf, LinearExpr.sum, LinearExpr.value]
    simp only [joiningArc, satisfies_cons, satisfies_nil, admits_newBool, admits_equals,
      LinearExpr.value_sub, hvar, value_sumOf_linkVars_eq_countP htruth, and_true,
      reduceCtorEq, false_or]
    omega

section Path

variable (ht : t.IsSound) (hj : j ∈ joins t a b) {path : List Link}
  (hperm : (t.taken σ flow).Perm path)
include ht hj hperm

/-- Behind an arc that a path takes, one link is taken. -/
lemma filter_join_perm (hpath : IsSimplePath a path b) {l : Link} (hl : l ∈ path)
    (hends : l.ends = j.1.ends) :
    ((j.1 :: j.2).filter fun k => σ (.link flow k.index) != 0).Perm [l] := by
  refine (List.perm_ext_iff_of_nodup ((ht.nodup_join hj).filter _)
    (List.nodup_singleton l)).2 fun k => ?_
  rw [List.mem_filter, List.mem_singleton]
  constructor
  · rintro ⟨hk, htaken⟩
    obtain ⟨husable, hkl⟩ := (ht.mem_join hj).1 hk
    have hkp : k ∈ path := hperm.mem_iff.1 (Topology.mem_taken.2
      ⟨(Topology.mem_usable.1 husable).1, by simpa using htaken⟩)
    exact List.inj_on_of_nodup_map hpath.source_nodup hkp hl
      (Link.ends_eq_iff.1 (hkl.trans hends.symm)).1
  · rintro rfl
    obtain ⟨hk, htaken⟩ := Topology.mem_taken.1 (hperm.mem_iff.2 hl)
    refine ⟨(ht.mem_join hj).2 ⟨Topology.mem_usable.2 ⟨hk, ?_, ?_⟩, hends⟩,
      by simpa using htaken⟩
    · rintro rfl
      exact hpath.source_notMem (List.mem_map_of_mem hl)
    · rintro rfl
      exact hpath.sink_notMem (List.mem_map_of_mem hl)

/-- Behind an arc that a path does not take, no link is taken. -/
lemma filter_join_eq_nil (hnone : ¬ ∃ l ∈ path, l.ends = j.1.ends) :
    (j.1 :: j.2).filter (fun k => σ (.link flow k.index) != 0) = [] := by
  refine List.filter_eq_nil_iff.2 fun k hk htaken => hnone ?_
  obtain ⟨husable, hkl⟩ := (ht.mem_join hj).1 hk
  exact ⟨k, hperm.mem_iff.1 (Topology.mem_taken.2
    ⟨(Topology.mem_usable.1 husable).1, by simpa using htaken⟩), hkl⟩

/-- The variables of the arcs get the right values if they say where the path goes. -/
lemma satisfies_joiningArc_of_path (h : IsTruthOn t σ flow) (hpath : IsSimplePath a path b)
    (harc : ∀ tail head, σ (.arc flow tail head) =
      if path.any (fun l => l.source == tail.value && l.sink == head.value) then 1 else 0) :
    Satisfies σ (joiningArc flow j).1 := by
  have hlink := (Topology.mem_usable.1 ((ht.mem_join hj).1 (List.mem_cons_self (a := j.1))).1).1
  have hany : path.any (fun l => l.source == j.1.shownSource.value &&
      l.sink == j.1.shownSink.value) = true ↔ ∃ l ∈ path, l.ends = j.1.ends := by
    simp only [ht.shownSource _ hlink, ht.shownSink _ hlink, List.any_eq_true, Bool.and_eq_true,
      beq_iff_eq, Int.natCast_inj, Link.ends_eq_iff]
  refine (satisfies_joiningArc h ht hj).2 (Or.inr ?_)
  rw [harc, List.countP_eq_length_filter]
  by_cases hex : ∃ l ∈ path, l.ends = j.1.ends
  · rw [if_pos (hany.2 hex)]
    obtain ⟨l, hl, hends⟩ := hex
    simp [(filter_join_perm ht hj hperm hpath hl hends).length_eq]
  · simp [mt hany.1 hex, filter_join_eq_nil ht hj hperm hex]

end Path

/-- An arc is used exactly if one of the links behind it is taken. -/
lemma joiningArc_holds_iff (h : IsTruthOn t σ flow) (ht : t.IsSound) (hj : j ∈ joins t a b)
    (hsat : Satisfies σ (joiningArc flow j).1) :
    (joiningArc flow j).2.literal.holds σ = true ↔
      ∃ l ∈ t.taken σ flow, l ∈ t.usable a b ∧ l.ends = j.1.ends := by
  have hbehind : (∃ l ∈ t.taken σ flow, l ∈ t.usable a b ∧ l.ends = j.1.ends) ↔
      ∃ l ∈ j.1 :: j.2, σ (.link flow l.index) ≠ 0 := by
    simp only [← ht.mem_join hj, Topology.mem_taken]
    constructor
    · rintro ⟨l, ⟨-, hl⟩, hmem⟩
      exact ⟨l, hmem, hl⟩
    · rintro ⟨l, hmem, hl⟩
      exact ⟨l, ⟨(Topology.mem_usable.1 ((ht.mem_join hj).1 hmem).1).1, hl⟩, hmem⟩
  rw [hbehind]
  have hvar := (satisfies_joiningArc h ht hj).1 hsat
  obtain ⟨k, _ | ⟨l, others⟩⟩ := j
  · simp [joiningArc]
  · obtain ⟨-, hcount⟩ := hvar.resolve_left (by simp)
    simp only [joiningArc, Literal.holds_of, hcount, bne_iff_ne, ne_eq, Int.natCast_eq_zero,
      List.countP_eq_zero, not_forall, not_not, exists_prop]

end Arcs

end NocRouting
