import NocRouting.Proofs.Network.Positions
import NocRouting.Proofs.Network.Travel

/-!
# Which links form a chain

Links form a chain exactly if they are the links of a simple path with the right ends.  There is
only one order in which the path can be travelled, so the order in which the links are given does
not matter.

* `Chain.order_eq_ok_iff_isOrdering` says this of links that have been looked up.
* `Topology.chain_exact` says it of indices of links, with the faults that there are otherwise.
-/

namespace NocRouting

namespace Chain

/-- The given links in an order in which they are a simple path, from the source and to the sink
where these are given. -/
structure IsOrdering (given : List Given) (source sink : Option Value) (chain : List Given) :
    Prop where
  perm : chain.Perm given
  path : ∃ a b, IsSimplePath a (chain.map (·.2)) b ∧
    (∀ v ∈ source, (Value.int a).eqv v = true) ∧ ∀ v ∈ sink, (Value.int b).eqv v = true

variable {given given' chain chain' : List Given} {source sink : Option Value}

lemma IsOrdering.perm_iff (hperm : given'.Perm given) :
    IsOrdering given' source sink chain ↔ IsOrdering given source sink chain :=
  ⟨fun h => ⟨h.perm.trans hperm, h.path⟩, fun h => ⟨h.perm.trans hperm.symm, h.path⟩⟩

/-- Links that are put in order are a simple path with the right ends. -/
lemma isOrdering_of_order (h : order given source sink = .ok chain) :
    IsOrdering given source sink chain := by
  obtain ⟨start, hstarts, hfollow, hlength, hends⟩ := order_eq_ok_iff.1 h
  have hstart : start ∈ given := by
    have hmem : start ∈ starts given := by simp [hstarts]
    exact (List.mem_filter.1 hmem).1
  obtain ⟨hsub, b, hpath⟩ := (hfollow ▸ follows_follow hstart).isSimplePath hstart
  -- no link is left out, as none is followed twice
  have hnodup : chain.Nodup := List.Nodup.of_map _ hpath.nodup
  have hperm : chain.Perm given := (hnodup.subperm hsub).perm_of_length_le hlength.ge
  refine ⟨hperm, start.2.source, b, hpath, ?_⟩
  obtain ⟨first, rest, rfl⟩ : ∃ first rest, chain = first :: rest :=
    List.exists_cons_of_length_pos (hlength ▸ List.length_pos_of_mem hstart)
  obtain ⟨l, hl, rfl⟩ := hpath.walk.exists_getLast? (by simp)
  rw [List.getLast?_map, Option.map_eq_some_iff] at hl
  obtain ⟨last, hlast, rfl⟩ := hl
  rw [← hpath.walk.1]
  exact (checkEnds_eq_ok_iff rfl hlast).1 hends

/-- Links are put in the only order in which they are a simple path with the right ends. -/
theorem order_eq_ok_iff_isOrdering (hne : given ≠ []) :
    order given source sink = .ok chain ↔ IsOrdering given source sink chain := by
  refine ⟨isOrdering_of_order, fun h => ?_⟩
  obtain ⟨a, b, hpath, hsource, hsink⟩ := h.path
  exact order_eq hpath h.perm.symm hne hsource hsink

end Chain

namespace Topology

open Chain

variable {t : Topology} {given chain : List Given} {source sink : Option Value}

/-- Links are looked up without a fault, unless two of them leave one router. -/
lemma gather_go_eq_or (h : ∀ g ∈ given, t.Gives g) (all : List Value) (left : List Nat) :
    gather.go t all (given.map (·.1)) left = .ok given ∨
      ∃ router, gather.go t all (given.map (·.1)) left = .error (.chain (.branches router) all) := by
  induction given generalizing left with
  | nil => exact .inl rfl
  | cons g given ih =>
    rw [List.map_cons, gather_go_cons (h g (by simp))]
    split
    · exact .inr ⟨_, rfl⟩
    · rcases ih (fun k hk => h k (List.mem_cons_of_mem _ hk)) (g.2.source :: left) with
        hok | ⟨router, herror⟩
      · exact .inl (by rw [hok]; rfl)
      · exact .inr ⟨router, by rw [herror]; rfl⟩

/-- Links are put in order, or it is a fault of theirs that they cannot be. -/
lemma chain_eq_or (h : ∀ g ∈ given, t.Gives g) (hne : given ≠ []) (source sink : Option Value) :
    (∃ chain, t.chain (given.map (·.1)) source sink = .ok chain ∧
        IsOrdering given source sink chain) ∨
      ∃ cause, t.chain (given.map (·.1)) source sink = .error (.chain cause (given.map (·.1))) := by
  have hsome : (given.map (·.1)).isEmpty = false := by simpa using hne
  rcases gather_go_eq_or h (given.map (·.1)) [] with hgather | ⟨router, hgather⟩
  · cases horder : order given source sink with
    | ok chain =>
      refine .inl ⟨chain, ?_, isOrdering_of_order horder⟩
      simp only [Topology.chain, hsome, gather, hgather, Except.ok_bind, horder]
      rfl
    | error cause =>
      refine .inr ⟨cause, ?_⟩
      simp only [Topology.chain, hsome, gather, hgather, Except.ok_bind, horder]
      rfl
  · refine .inr ⟨.branches router, ?_⟩
    simp only [Topology.chain, hsome, gather, hgather]
    rfl

/-- Links that are given by their indices form a chain exactly if they can be ordered. -/
lemma chain_eq_ok_iff (h : ∀ g ∈ given, t.Gives g) (hne : given ≠ []) :
    t.chain (given.map (·.1)) source sink = .ok chain ↔ IsOrdering given source sink chain := by
  constructor
  · intro hchain
    rcases chain_eq_or h hne source sink with ⟨chain', hchain', hordering⟩ | ⟨cause, herror⟩
    · obtain rfl := Except.ok.inj (hchain.symm.trans hchain')
      exact hordering
    · rw [hchain] at herror
      cases herror
  · intro hordering
    obtain ⟨a, b, hpath, hsource, hsink⟩ := hordering.path
    exact chain_eq_of_path h hpath hordering.perm.symm hne hsource hsink

/-- No links at all are a chain, unless it has to join different routers. -/
lemma chain_nil (t : Topology) (source sink : Option Value) :
    t.chain [] source sink = .ok [] ∧ (∀ a ∈ source, ∀ b ∈ sink, a.eqv b = true) ∨
      ∃ a ∈ source, ∃ b ∈ sink, a.eqv b = false ∧
        t.chain [] source sink = .error (.chain (.noLinks a b) []) := by
  cases source with
  | none => exact .inl ⟨rfl, by simp⟩
  | some a =>
    cases sink with
    | none => exact .inl ⟨rfl, by simp⟩
    | some b =>
      cases hab : a.eqv b with
      | true => exact .inl ⟨by simp [Topology.chain, hab], by simp [hab]⟩
      | false =>
        exact .inr ⟨a, rfl, b, rfl, hab, by simp only [Topology.chain, hab]; rfl⟩

/-- That links form no chain is the only fault, and carries their indices as they were given. -/
lemma exists_of_chain_eq_error (h : ∀ g ∈ given, t.Gives g) {fault : Fault}
    (hfault : t.chain (given.map (·.1)) source sink = .error fault) :
    ∃ cause, fault = .chain cause (given.map (·.1)) := by
  rcases eq_or_ne given [] with rfl | hne
  · rcases chain_nil t source sink with ⟨hok, -⟩ | ⟨a, -, b, -, -, herror⟩
    · cases hok.symm.trans hfault
    · exact ⟨_, Except.error.inj (hfault.symm.trans herror)⟩
  · rcases chain_eq_or h hne source sink with ⟨chain, hok, -⟩ | ⟨cause, herror⟩
    · cases hok.symm.trans hfault
    · exact ⟨cause, Except.error.inj (hfault.symm.trans herror)⟩

/-- Putting links in travelling order is exact.  Whatever indices of links are given, they are put
in the one order in which they are a simple path with the right ends; where there is no such order,
this is the fault, and it carries the indices as they were given.  The order in which they are given
does not matter, and the walk along them ends. -/
theorem chain_exact (h : ∀ g ∈ given, t.Gives g) (source sink : Option Value) :
    let indices := given.map (·.1)
    (given ≠ [] →
      (∀ chain, t.chain indices source sink = .ok chain ↔ IsOrdering given source sink chain) ∧
      ((∀ chain, ¬ IsOrdering given source sink chain) →
        ∃ cause, t.chain indices source sink = .error (.chain cause indices)) ∧
      (∀ chain chain', IsOrdering given source sink chain → IsOrdering given source sink chain' →
        chain = chain') ∧
      ∀ given' : List Given, given'.Perm given → ∀ chain,
        t.chain (given'.map (·.1)) source sink = .ok chain ↔
          t.chain indices source sink = .ok chain) ∧
    (given = [] →
      ((∀ a ∈ source, ∀ b ∈ sink, a.eqv b = true) → t.chain indices source sink = .ok []) ∧
      ∀ a ∈ source, ∀ b ∈ sink, a.eqv b = false →
        ∃ cause, t.chain indices source sink = .error (.chain cause indices)) ∧
    ∀ first ∈ given, Follows given first [first.2.source]
      (follow given given.length first [first.2.source]) := by
  intro indices
  refine ⟨fun hne => ⟨fun chain => chain_eq_ok_iff h hne, fun hnone => ?_, ?_, ?_⟩, ?_,
    fun first => follows_follow⟩
  · rcases chain_eq_or h hne source sink with ⟨chain, -, hordering⟩ | herror
    · exact absurd hordering (hnone chain)
    · exact herror
  · intro chain chain' hordering hordering'
    rw [← chain_eq_ok_iff h hne] at hordering hordering'
    exact Except.ok.inj (hordering.symm.trans hordering')
  · intro given' hperm chain
    have hne' : given' ≠ [] := by
      rintro rfl
      exact hne hperm.nil_eq.symm
    rw [chain_eq_ok_iff h hne, chain_eq_ok_iff (fun g hg => h g (hperm.mem_iff.1 hg)) hne',
      IsOrdering.perm_iff hperm]
  · rintro rfl
    rcases chain_nil t source sink with ⟨hok, hsame⟩ | ⟨a, ha, b, hb, hab, herror⟩
    · refine ⟨fun _ => hok, fun a ha b hb hab => ?_⟩
      rw [hsame a ha b hb] at hab
      cases hab
    · refine ⟨fun hsame => ?_, fun _ _ _ _ _ => ⟨_, herror⟩⟩
      rw [hsame a ha b hb] at hab
      cases hab

/-- In a square, the links from the first router along three sides, given backwards and by indices
of every form. -/
theorem square_chain_exact :
    let toSecond : Given := (.bool false, ⟨0, 0, 1, .number 0, .number 1, some .east, .int 64, .int 1⟩)
    let toFourth : Given := (.int 4, ⟨4, 1, 3, .number 1, .number 3, some .north, .int 64, .int 1⟩)
    let toThird : Given := (.int (-1), ⟨7, 3, 2, .number 3, .number 2, some .west, .int 64, .int 1⟩)
    (∀ g ∈ [toThird, toFourth, toSecond], Square.topology.Gives g) ∧
      Square.topology.chain [.int (-1), .int 4, .bool false] (some (.int 0)) (some (.int 2)) =
        .ok [toSecond, toFourth, toThird] := by
  intro toSecond toFourth toThird
  have hgives : ∀ g ∈ [toThird, toFourth, toSecond], Square.topology.Gives g := by
    simp only [List.mem_cons, List.not_mem_nil, or_false]
    rintro g (rfl | rfl | rfl)
    · exact ⟨-1, rfl, rfl⟩
    · exact ⟨4, rfl, rfl⟩
    · exact ⟨0, rfl, rfl⟩
  have hpath : IsSimplePath 0 [toSecond.2, toFourth.2, toThird.2] 2 :=
    ⟨⟨rfl, rfl, rfl, rfl⟩, by decide⟩
  have hordering : IsOrdering [toThird, toFourth, toSecond] (some (.int 0)) (some (.int 2))
      [toSecond, toFourth, toThird] :=
    ⟨List.reverse_perm [toThird, toFourth, toSecond], 0, 2, hpath, by simp, by simp⟩
  exact ⟨hgives, (((chain_exact hgives _ _).1 (by simp)).1 _).2 hordering⟩

end Topology

end NocRouting
