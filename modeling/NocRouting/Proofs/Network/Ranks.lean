import NocRouting.Proofs.Network.Positions
import NocRouting.Topology.Network

/-!
# Tables of ranks

The ranks of coordinates are kept in a table, which numbers the different coordinates in order.  For
whole numbers, the number of a coordinate in that table is the number of coordinates before it.

* `Value.exists_sorted` says that whole numbers can be put in order.
* `Network.exists_ranks` says that a table of ranks holds the ranks.
-/

namespace NocRouting

namespace Value

variable {v : Value} {vs ws : List Value}

lemma perm_inserted : (v.inserted ws).Perm (v :: ws) := by
  induction ws with
  | nil => exact List.Perm.refl _
  | cons w ws ih =>
    rw [inserted]
    split
    · exact List.Perm.refl _
    · exact (ih.cons w).trans (List.Perm.swap v w ws)

/-- A whole number that is new keeps its place in the order. -/
lemma pairwise_inserted (hv : v.IsWhole) (hws : ∀ w ∈ ws, w.IsWhole)
    (hnew : ∀ w ∈ ws, w.whole ≠ v.whole) (hsorted : ws.Pairwise fun v w => v.whole < w.whole) :
    (v.inserted ws).Pairwise fun v w => v.whole < w.whole := by
  induction ws with
  | nil => exact List.pairwise_singleton _ _
  | cons w ws ih =>
    obtain ⟨hw, hrest⟩ := List.forall_mem_cons.1 hws
    obtain ⟨hne, hnew'⟩ := List.forall_mem_cons.1 hnew
    obtain ⟨hbelow, hlater⟩ := List.pairwise_cons.1 hsorted
    rw [inserted, hv.precedes_eq hw]
    by_cases hlt : v.whole < w.whole
    · rw [decide_eq_true hlt, if_pos rfl]
      refine List.pairwise_cons.2 ⟨List.forall_mem_cons.2 ⟨hlt, fun u hu => ?_⟩, hsorted⟩
      exact hlt.trans (hbelow u hu)
    · rw [decide_eq_false hlt, if_neg Bool.false_ne_true]
      refine List.pairwise_cons.2 ⟨fun u hu => ?_, ih hrest hnew' hlater⟩
      rcases List.mem_cons.1 (perm_inserted.mem_iff.1 hu) with rfl | hu
      · omega
      · exact hbelow u hu

/-- What has been put in order so far stays in order, with everything that is still to come. -/
lemma foldl_inserted (hvs : ∀ v ∈ vs ++ ws, v.IsWhole) (hnodup : ((vs ++ ws).map whole).Nodup)
    (hsorted : ws.Pairwise fun v w => v.whole < w.whole) :
    (vs.foldl (fun ws v => v.inserted ws) ws).Perm (vs ++ ws) ∧
      (vs.foldl (fun ws v => v.inserted ws) ws).Pairwise fun v w => v.whole < w.whole := by
  induction vs generalizing ws with
  | nil => exact ⟨List.Perm.refl _, hsorted⟩
  | cons v vs ih =>
    have hperm : (vs ++ v.inserted ws).Perm (v :: vs ++ ws) :=
      (perm_inserted.append_left vs).trans List.perm_middle
    obtain ⟨hv, hothers⟩ := List.forall_mem_cons.1 hvs
    have hnew : ∀ w ∈ ws, w.whole ≠ v.whole := by
      intro w hw heq
      refine (List.nodup_cons.1 hnodup).1 ?_
      rw [← heq]
      exact List.mem_map_of_mem (List.mem_append_right _ hw)
    have hnext := pairwise_inserted hv (fun w hw => hothers w (List.mem_append_right _ hw)) hnew
      hsorted
    obtain ⟨hall, hdone⟩ := ih (fun w hw => hvs w (hperm.mem_iff.1 hw))
      ((hperm.map whole).nodup_iff.2 hnodup) hnext
    exact ⟨hall.trans hperm, hdone⟩

/-- Different whole numbers can be put in order. -/
lemma exists_sorted (hvs : ∀ v ∈ vs, v.IsWhole) (hnodup : (vs.map whole).Nodup) :
    ∃ ws, sorted vs = .ok ws ∧ ws.Perm vs ∧ ws.Pairwise fun v w => v.whole < w.whole := by
  have hcomparable : areComparable vs = true := by
    have hall : vs.all (·.number?.isSome) = true := by
      rw [List.all_eq_true]
      intro v hv
      rw [hvs v hv]
      rfl
    rw [areComparable, hall, Bool.or_true, Bool.true_or]
  rw [← List.append_nil vs] at hvs hnodup
  obtain ⟨hperm, hsorted⟩ := foldl_inserted hvs hnodup List.Pairwise.nil
  rw [List.append_nil] at hperm
  exact ⟨_, if_pos hcomparable, hperm, hsorted⟩

end Value

namespace Network

/-- Where whole numbers come in order, as many come before one of them as its number says. -/
lemma find_zipIdx {ws : List Value} (hws : ∀ w ∈ ws, w.IsWhole)
    (hsorted : ws.Pairwise fun v w => v.whole < w.whole) {v : Value} (hv : v.IsWhole)
    (hmem : v.whole ∈ ws.map Value.whole) (start : Nat) :
    Table.find (ws.zipIdx start) v = some (start + ws.countP (·.precedes v)) := by
  induction ws generalizing start with
  | nil => simp at hmem
  | cons w ws ih =>
    obtain ⟨hw, hrest⟩ := List.forall_mem_cons.1 hws
    obtain ⟨hbelow, hlater⟩ := List.pairwise_cons.1 hsorted
    rw [List.zipIdx_cons, Table.find, List.find?_cons, List.countP_cons, hw.precedes_eq hv]
    by_cases hsame : w.whole = v.whole
    · have hnone : ws.countP (·.precedes v) = 0 := by
        rw [List.countP_eq_zero]
        intro u hu
        have hlt := hbelow u hu
        rw [(hrest u hu).precedes_eq hv, decide_eq_true_eq]
        omega
      have hkey : Key.same w v = true := (hw.same_iff hv).2 hsame
      rw [hkey, hnone, hsame]
      simp
    · have hkey : Key.same w v = false := by
        rw [← Bool.not_eq_true]
        exact mt (hw.same_iff hv).1 hsame
      rw [List.map_cons, List.mem_cons] at hmem
      have hmem' := hmem.resolve_left (Ne.symm hsame)
      obtain ⟨u, hu, huv⟩ := List.mem_map.1 hmem'
      have hlt := hbelow u hu
      have hfirst : w.whole < v.whole := by omega
      rw [hkey, decide_eq_true hfirst]
      have hfind := ih hrest hlater hmem' (start + 1)
      rw [Table.find] at hfind
      rw [hfind, if_pos rfl]
      congr 1
      omega

/-- A table of ranks holds the ranks of whole coordinates. -/
theorem exists_ranks {vs : List Value} (hvs : ∀ v ∈ vs, v.IsWhole) :
    ∃ table, ranks vs = .ok table ∧ ∀ v ∈ vs, rankIn table v = .ok (Topology.rank vs v) := by
  obtain ⟨ws, hws, hperm, hsorted⟩ := Value.exists_sorted
    (fun v hv => hvs v (distinct_subset hv)) (nodup_distinct hvs)
  have hwhole : ∀ w ∈ ws, w.IsWhole := fun w hw => hvs w (distinct_subset (hperm.mem_iff.1 hw))
  have htable : Table.numbered ws = ws.zipIdx := by
    refine Table.setAll_of_not_has (fun _ _ => rfl) ?_
    rw [← List.pairwise_map (f := fun e : Value × Nat => e.1)
      (R := fun v w => Key.same v w = false), List.zipIdx_map_fst]
    refine hsorted.imp_of_mem fun {v w} hv hw hlt => ?_
    rw [← Bool.not_eq_true]
    intro hsame
    have heq := ((hwhole v hv).same_iff (hwhole w hw)).1 hsame
    omega
  refine ⟨_, by rw [ranks, hws]; rfl, fun v hv => ?_⟩
  have hmem : v.whole ∈ ws.map Value.whole := by
    rw [(hperm.map _).mem_iff, mem_distinct hvs]
    exact List.mem_map_of_mem hv
  rw [rankIn, htable, find_zipIdx hwhole hsorted (hvs v hv) hmem, Nat.zero_add, hperm.countP_eq]
  rfl

end Network

end NocRouting
