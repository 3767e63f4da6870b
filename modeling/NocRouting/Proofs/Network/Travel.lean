import NocRouting.Proofs.Network.Following
import NocRouting.Proofs.Network.Growth

/-!
# Paths in travelling order

The links of a simple path can be put back into travelling order, whatever order they are given in.
One of them is entered by no other, and from there on each router on the way is left by one link.

* `Chain.follows_path` follows the links of a path.
* `Chain.order_eq` orders the links of a path.
* `Topology.IsSound.chain_eq` looks the links up by their numbers and orders them.
-/

namespace NocRouting

/-- A link with its number. -/
def Link.numbered (l : Link) : Chain.Given :=
  (.int l.index, l)

@[simp] lemma Link.numbered_snd (l : Link) : l.numbered.2 = l := rfl

lemma Link.map_numbered_fst (links : List Link) :
    (links.map Link.numbered).map (·.1) = links.map fun l => Value.int l.index := by
  simp [Function.comp_def, Link.numbered]

@[simp] lemma Link.map_numbered_snd (links : List Link) :
    (links.map Link.numbered).map (·.2) = links := by
  simp [Function.comp_def]

namespace Chain

/-! ### Following a path -/

section Path

variable {a b : Nat} {given chain : List Given} {g : Given}
  (hpath : IsSimplePath a (chain.map (·.2)) b) (hperm : given.Perm chain)
include hpath hperm

/-- The links leave different routers. -/
lemma eq_of_source_eq {k : Given} (hg : g ∈ given) (hk : k ∈ given)
    (hgk : g.2.source = k.2.source) : g = k := by
  have hnodup := hpath.source_nodup
  rw [List.map_map] at hnodup
  exact List.inj_on_of_nodup_map hnodup (hperm.mem_iff.1 hg) (hperm.mem_iff.1 hk) hgk

/-- The link that leaves a router on the way is found. -/
lemma find?_source (hg : g ∈ given) : given.find? (·.2.source == g.2.source) = some g := by
  cases hfind : given.find? (·.2.source == g.2.source) with
  | none => exact absurd (beq_self_eq_true g.2.source) (List.find?_eq_none.1 hfind _ hg)
  | some k =>
    obtain ⟨hk, hkg⟩ := mem_of_find?_source hfind
    rw [eq_of_source_eq hpath hperm hk hg hkg]

/-- No link leaves the last router. -/
lemma find?_sink : given.find? (·.2.source == b) = none := by
  refine List.find?_eq_none.2 fun g hg => ?_
  simp only [beq_iff_eq]
  rintro rfl
  exact hpath.sink_notMem (List.mem_map_of_mem (List.mem_map_of_mem (hperm.mem_iff.1 hg)))

/-- Following the links of a path leads along the rest of it. -/
lemma follows_path {rest : List Given} {visited : List Nat}
    (hwalk : IsWalk g.2.sink (rest.map (·.2)) b) (hrest : rest ⊆ given)
    (hvisited : ∀ k ∈ g :: rest, k.2.sink ∉ visited)
    (hsinks : ((g :: rest).map (·.2.sink)).Nodup) :
    Follows given g visited (.ok (g :: rest)) := by
  induction rest generalizing g visited with
  | nil =>
    obtain rfl : g.2.sink = b := hwalk
    exact .ends (hvisited g (by simp)) (find?_sink hpath hperm)
  | cons k rest ih =>
    obtain ⟨hk, hwalk⟩ := isWalk_cons.1 hwalk
    have hfind := find?_source hpath hperm (hrest (List.mem_cons_self (a := k)))
    rw [hk] at hfind
    obtain ⟨hg, hrest'⟩ := List.nodup_cons.1 hsinks
    have hvisited' : ∀ m ∈ k :: rest, m.2.sink ∉ g.2.sink :: visited := by
      intro m hm hmem
      rcases List.mem_cons.1 hmem with hmg | hmem
      · exact hg (List.mem_map.2 ⟨m, hm, hmg⟩)
      · exact hvisited m (List.mem_cons_of_mem _ hm) hmem
    have hfollows := ih hwalk (fun m hm => hrest (List.mem_cons_of_mem _ hm)) hvisited' hrest'
    exact .goes (hvisited g (by simp)) hfind hfollows

/-- Only the first link of a path is entered by no other. -/
lemma starts_eq {rest : List Given} (hchain : chain = g :: rest) : starts given = [g] := by
  have hg : g ∈ given := hperm.mem_iff.2 (by simp [hchain])
  have hnodup : given.Nodup := hperm.nodup_iff.2 (List.Nodup.of_map _ hpath.nodup)
  have hsource : g.2.source = a := by
    rw [hchain] at hpath
    exact hpath.walk.1
  have hsinks : ∀ k ∈ given, k.2.sink ∈ (chain.map (·.2)).map (·.sink) := fun k hk =>
    List.mem_map_of_mem (List.mem_map_of_mem (hperm.mem_iff.1 hk))
  refine List.perm_singleton.1 ((List.perm_ext_iff_of_nodup (hnodup.filter _)
    (List.nodup_singleton g)).2 fun k => ?_)
  simp only [List.mem_filter, List.mem_singleton, Bool.not_eq_true', List.any_eq_false,
    beq_iff_eq]
  constructor
  · rintro ⟨hk, hfirst⟩
    have hmem : k.2 ∈ chain.map (·.2) := List.mem_map_of_mem (hperm.mem_iff.1 hk)
    -- the source of any other link is entered on the way
    rcases List.mem_cons.1 (hpath.walk.source_mem hmem) with hka | hsink
    · exact eq_of_source_eq hpath hperm hk hg (hka.trans hsource.symm)
    · rw [List.map_map] at hsink
      obtain ⟨m, hm, hmk⟩ := List.mem_map.1 hsink
      exact absurd hmk (hfirst m (hperm.mem_iff.2 hm))
  · rintro rfl
    refine ⟨hg, fun m hm hsink => hpath.source_notMem ?_⟩
    rw [← hsource, ← hsink]
    exact hsinks m hm

end Path

/-! ### Ordering a path -/

/-- A chain has the right ends if its first link leaves the source and its last one enters the
sink, where these are given. -/
lemma checkEnds_eq_ok_iff {chain : List Given} {first last : Given} {source sink : Option Value}
    (hfirst : chain.head? = some first) (hlast : chain.getLast? = some last) :
    checkEnds chain source sink = .ok () ↔
      (∀ v ∈ source, (Value.int first.2.source).eqv v = true) ∧
        ∀ v ∈ sink, (Value.int last.2.sink).eqv v = true := by
  obtain ⟨_, k⟩ := first
  obtain ⟨_, l⟩ := last
  have hlast' : checkEnds chain none sink = .ok () ↔
      ∀ v ∈ sink, (Value.int l.sink).eqv v = true := by
    cases sink with
    | none => simp [checkEnds]
    | some w => cases hw : (Value.int l.sink).eqv w <;> simp [checkEnds, hlast, hw]
  cases source with
  | none => simpa using hlast'
  | some v =>
    cases hv : (Value.int k.source).eqv v with
    | false => simp [checkEnds, hfirst, hv, Except.throw_bind_ne_ok]
    | true =>
      rw [← hlast']
      simp [checkEnds, hfirst, hv]

variable {a b : Nat} {given chain : List Given} {source sink : Option Value}

/-- Links have an order if only one of them is entered by no other, following them from there leaves
none out, and the ends are right. -/
lemma order_eq_ok_iff : order given source sink = .ok chain ↔
    ∃ start, starts given = [start] ∧
      follow given given.length start [start.2.source] = .ok chain ∧
      chain.length = given.length ∧ checkEnds chain source sink = .ok () := by
  constructor
  · intro h
    unfold order at h
    split at h
    · next start hstarts =>
      obtain ⟨chain', hfollow, h⟩ := Except.bind_eq_ok.1 h
      split at h
      · exact absurd h Except.throw_bind_ne_ok
      · next hlength =>
        obtain ⟨_, hends, h⟩ := Except.bind_eq_ok.1 h
        obtain rfl := Except.pure_eq_ok.1 h
        exact ⟨start, hstarts, hfollow, not_not.1 hlength, hends⟩
    · simp at h
  · rintro ⟨start, hstarts, hfollow, hlength, hends⟩
    simp only [order, hstarts, hfollow, Except.ok_bind, hlength, hends, ne_eq, not_true_eq_false,
      if_false]
    rfl

/-- The links of a path are put in travelling order. -/
theorem order_eq (hpath : IsSimplePath a (chain.map (·.2)) b) (hperm : given.Perm chain)
    (hne : given ≠ []) (hsource : ∀ v ∈ source, (Value.int a).eqv v = true)
    (hsink : ∀ v ∈ sink, (Value.int b).eqv v = true) : order given source sink = .ok chain := by
  obtain ⟨g, rest, rfl⟩ : ∃ g rest, chain = g :: rest :=
    List.exists_cons_of_ne_nil fun hnil => hne (hnil ▸ hperm).eq_nil
  have hg : g ∈ given := hperm.mem_iff.2 (by simp)
  obtain ⟨hga, hwalk⟩ := isWalk_cons.1 hpath.walk
  have hfollow : follow given given.length g [g.2.source] = .ok (g :: rest) := by
    refine (follows_path hpath hperm hwalk (fun k hk => hperm.mem_iff.2 (by simp [hk])) ?_
      ?_).follow_eq hg
    · intro k hk hmem
      rw [List.mem_singleton, hga] at hmem
      exact hpath.source_notMem (hmem ▸ List.mem_map_of_mem (List.mem_map_of_mem hk))
    · have hnodup := hpath.sink_nodup
      rwa [List.map_map] at hnodup
  have hends : checkEnds (g :: rest) source sink = .ok () := by
    obtain ⟨l, hl, rfl⟩ := hpath.walk.exists_getLast? (by simp)
    rw [List.getLast?_map, Option.map_eq_some_iff] at hl
    obtain ⟨last, hlast, rfl⟩ := hl
    exact (checkEnds_eq_ok_iff rfl hlast).2 ⟨hga ▸ hsource, hsink⟩
  exact order_eq_ok_iff.2 ⟨g, starts_eq hpath hperm rfl, hfollow, hperm.length_eq.symm, hends⟩

end Chain

/-! ### Looking links up -/

namespace Topology

section Gather

variable {t : Topology} {all : List Value} {given chain : List Chain.Given} {left : List Nat}

/-- A link is given by an index of it. -/
def Gives (t : Topology) (g : Chain.Given) : Prop :=
  ∃ i, g.1.asIndex = .ok i ∧ t.link i = .ok g.2

lemma gather_go_cons {g : Chain.Given} {rest : List Value} (hg : t.Gives g) :
    gather.go t all (g.1 :: rest) left =
      if g.2.source ∈ left then .error (.chain (.branches g.2.shownSource.toValue) all)
      else (gather.go t all rest (g.2.source :: left)).map (g :: ·) := by
  obtain ⟨i, hi, hlink⟩ := hg
  by_cases hmem : g.2.source ∈ left
  · simp only [gather.go, hi, hlink, Except.ok_bind, List.contains_iff_mem, hmem, if_true]
    rfl
  · simp only [gather.go, hi, hlink, Except.ok_bind, List.contains_iff_mem, hmem, if_false]
    cases gather.go t all rest (g.2.source :: left) <;> rfl

/-- Links that leave different routers are looked up without a fault. -/
lemma gather_go_eq (h : ∀ g ∈ given, t.Gives g) (hleft : ∀ g ∈ given, g.2.source ∉ left)
    (hsources : (given.map (·.2.source)).Nodup) :
    gather.go t all (given.map (·.1)) left = .ok given := by
  induction given generalizing left with
  | nil => rfl
  | cons g given ih =>
    obtain ⟨hg, hrest⟩ := List.nodup_cons.1 hsources
    have hleft' : ∀ k ∈ given, k.2.source ∉ g.2.source :: left := by
      intro k hk hmem
      rcases List.mem_cons.1 hmem with hkg | hmem
      · exact hg (List.mem_map.2 ⟨k, hk, hkg⟩)
      · exact hleft k (List.mem_cons_of_mem _ hk) hmem
    rw [List.map_cons, gather_go_cons (h g (by simp)), if_neg (hleft g (by simp)),
      ih (fun k hk => h k (List.mem_cons_of_mem _ hk)) hleft' hrest]
    rfl

/-- The links of a path are put in travelling order, from whatever order they are given in. -/
theorem chain_eq_of_path (h : ∀ g ∈ given, t.Gives g) {a b : Nat}
    (hpath : IsSimplePath a (chain.map (·.2)) b) (hperm : given.Perm chain) (hne : given ≠ [])
    {source sink : Option Value} (hsource : ∀ v ∈ source, (Value.int a).eqv v = true)
    (hsink : ∀ v ∈ sink, (Value.int b).eqv v = true) :
    t.chain (given.map (·.1)) source sink = .ok chain := by
  have hsources : (given.map (·.2.source)).Nodup := by
    have hnodup := hpath.source_nodup
    rw [List.map_map] at hnodup
    exact (hperm.map _).nodup_iff.2 hnodup
  have hgather : t.gather (given.map (·.1)) = .ok given := gather_go_eq h (by simp) hsources
  have hsome : (given.map (·.1)).isEmpty = false := by simpa using hne
  simp only [Topology.chain, hsome, hgather, Except.ok_bind,
    Chain.order_eq hpath hperm hne hsource hsink]
  rfl

end Gather

namespace IsSound

variable {t : Topology} (ht : t.IsSound)
include ht

lemma link_eq {l : Link} (hl : l ∈ t.links) : t.link l.index = .ok l := by
  obtain ⟨i, hi⟩ := List.getElem?_of_mem hl
  have hlt := (List.getElem?_eq_some_iff.1 hi).1
  have hindex : (t.links.map (·.index))[i]? = some l.index := by simp [hi]
  rw [ht.link_index, List.getElem?_range hlt] at hindex
  obtain rfl : i = l.index := Option.some.inj hindex
  exact itemAt_ofNat hi

/-- Links of the network are given by their numbers. -/
lemma gives_numbered {links : List Link} (hsub : links ⊆ t.links) :
    ∀ g ∈ links.map Link.numbered, t.Gives g := by
  intro g hg
  obtain ⟨l, hl, rfl⟩ := List.mem_map.1 hg
  exact ⟨l.index, rfl, ht.link_eq (hsub hl)⟩

/-- The numbers of the links of a path are put in travelling order. -/
theorem chain_eq {a b : Nat} {path links : List Link} (hpath : IsSimplePath a path b)
    (hsub : path ⊆ t.links) (hperm : links.Perm path) :
    t.chain (links.map fun l => .int l.index) (some (.int a)) (some (.int b)) =
      .ok (path.map Link.numbered) := by
  by_cases hne : links = []
  · obtain rfl := hne
    obtain rfl := hperm.nil_eq
    obtain rfl : a = b := hpath.walk
    simp [chain]
  · have hgives := ht.gives_numbered fun l hl => hsub (hperm.mem_iff.1 hl)
    rw [← Link.map_numbered_fst]
    refine chain_eq_of_path hgives ?_ (hperm.map _) (by simpa using hne)
      (a := a) (b := b) (by simp) (by simp)
    rw [Link.map_numbered_snd]
    exact hpath

end IsSound

end Topology

end NocRouting
