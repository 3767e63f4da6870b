import NocRouting.Proofs.Network.History
import NocRouting.Realisation

/-!
# Linking declared routers

When all declared routers have been put on tiles, the connections that they declare become links, one
after the other.  A connection becomes a link exactly if both routers exist and one lies in a
direction from the other.

* `Topology.Joins` says that a link joins the routers with two identifiers.
* `Realisation.hasAdded_of_addLinks` says what links have been added, and `Realisation.exists_addLinks`
  when they can be.
-/

namespace NocRouting

/-- The identifiers of the routers that the links of a router join. -/
def LogicalRouter.ends (r : LogicalRouter) : List (Value × Value) :=
  r.connections.map fun id => (r.id, id)

namespace Topology

/-- A link joins the routers with two identifiers. -/
def Joins (t : Topology) (ends : Value × Value) (l : Link) : Prop :=
  ∃ p q, t.routers[l.source]? = some p ∧ p.id.same ends.1 = true ∧
    t.routers[l.sink]? = some q ∧ q.id.same ends.2 = true

/-- A link could join the routers with two identifiers. -/
def CanJoin (t : Topology) (ends : Value × Value) : Prop :=
  ∃ p ∈ t.routers, ∃ q ∈ t.routers, p.id.same ends.1 = true ∧ q.id.same ends.2 = true ∧
    ∃ direction, p.position.Heads q.position direction

variable {t t' : Topology} {ends : Value × Value} {l : Link}

/-- Where a link joins two routers, one could. -/
lemma Reachable.canJoin (ht : t.Reachable) (hwhole : t.HasWholePositions) (hl : l ∈ t.links)
    (h : t.Joins ends l) : t.CanJoin ends := by
  obtain ⟨p, q, hp, hpid, hq, hqid⟩ := h
  obtain ⟨-, a, b, ha, hb, hheads⟩ := (ht.isConsistent hwhole).joins l hl
  obtain rfl : a = p := Option.some.inj (ha.symm.trans hp)
  obtain rfl : b = q := Option.some.inj (hb.symm.trans hq)
  exact ⟨a, List.mem_of_getElem? ha, b, List.mem_of_getElem? hb, hpid, hqid, _, hheads⟩

/-- A link that is added to a network between the routers with two identifiers joins them. -/
lemma Reachable.joins_of_addLink {source sink : Nat} (ht : t.Reachable)
    (hsource : t.routerWithId ends.1 = .ok source) (hsink : t.routerWithId ends.2 = .ok sink)
    (h : t.addLink (.int source) (.int sink) = .ok (t', l)) :
    t' = { t with links := t.links ++ [l] } ∧ t.Joins ends l := by
  obtain ⟨p, hp, hpid⟩ := ht.routerWithId_eq_ok_iff.1 hsource
  obtain ⟨q, hq, hqid⟩ := ht.routerWithId_eq_ok_iff.1 hsink
  obtain ⟨tail, head, a, b, direction, -, htail, hhead, -, -, -, ha, hb, -, rfl, rfl⟩ :=
    addLink_eq_ok h
  obtain rfl := Except.ok.inj ((Index.ofValue_int _).symm.trans htail)
  obtain rfl := Except.ok.inj ((Index.ofValue_int _).symm.trans hhead)
  have ha' : t.routers[a.index]? = some a := ht.getElem?_index (List.mem_of_getElem? ha)
  have hb' : t.routers[b.index]? = some b := ht.getElem?_index (List.mem_of_getElem? hb)
  obtain rfl : a = p := Option.some.inj (ha.symm.trans hp)
  obtain rfl : b = q := Option.some.inj (hb.symm.trans hq)
  exact ⟨rfl, a, b, ha', hpid, hb', hqid⟩

/-- A link that could join the routers with two identifiers can be added between them. -/
lemma Reachable.exists_addLink {source : Nat} (ht : t.Reachable) (hwhole : t.HasWholePositions)
    (hbuilt : t.compressed = none) (hsource : t.routerWithId ends.1 = .ok source)
    (h : t.CanJoin ends) :
    ∃ sink, t.routerWithId ends.2 = .ok sink ∧
      ∃ t' l, t.addLink (.int source) (.int sink) = .ok (t', l) ∧ t'.Reachable ∧
        t'.routers = t.routers ∧ t'.compressed = none := by
  obtain ⟨p, hp, q, hq, hpid, hqid, direction, hheads⟩ := h
  have hp' := ht.getElem?_index hp
  have hq' := ht.getElem?_index hq
  have hapart := hheads.same_eq_false (hwhole p hp) (hwhole q hq)
  have hdir := (directionBetween_eq_ok_iff (hwhole p hp) (hwhole q hq) hapart).2 hheads
  have hsink := ht.routerWithId_eq_ok_iff.2 ⟨q, hq', hqid⟩
  have hne : p.index ≠ q.index := by
    intro hindex
    rw [hindex, hq', Option.some.injEq] at hp'
    rw [← hp', Position.same_self (hwhole q hq).isKey] at hapart
    cases hapart
  obtain rfl : source = p.index :=
    Except.ok.inj (hsource.symm.trans (ht.routerWithId_eq_ok_iff.2 ⟨p, hp', hpid⟩))
  have hadd := addLink_eq hbuilt hp' hq' hne hdir
  exact ⟨q.index, hsink, _, _, hadd, .addLink _ _ ht hadd, rfl, hbuilt⟩

/-- Routers are found by their identifiers whatever the links. -/
lemma routerWithId_congr (h : t'.routers = t.routers) (id : Value) :
    t'.routerWithId id = t.routerWithId id := by
  rw [routerWithId, routerWithId, h]

end Topology

namespace Realisation

variable {t t' : Topology} {rs : List LogicalRouter}

/-- Create a link from a router to the one with an identifier. -/
def addLinkTo (source : Nat) (t : Topology) (id : Value) : Except Fault Topology := do
  let (t, _) ← t.addLink (.int source) (.int (← t.routerWithId id))
  return t

lemma addLinksOf_eq {r : LogicalRouter} : addLinksOf t r =
    t.routerWithId r.id >>= fun source => r.connections.foldlM (addLinkTo source) t := rfl

lemma addLinkTo_eq_ok {source : Nat} {id : Value} : addLinkTo source t id = .ok t' ↔
    ∃ sink, t.routerWithId id = .ok sink ∧ ∃ l, t.addLink (.int source) (.int sink) = .ok (t', l) := by
  rw [addLinkTo, Except.bind_eq_ok]
  refine exists_congr fun sink => and_congr_right fun _ => ?_
  rw [Except.bind_eq_ok]
  constructor
  · rintro ⟨⟨t₁, l⟩, hadd, hpure⟩
    obtain rfl := Except.pure_eq_ok.1 hpure
    exact ⟨l, hadd⟩
  · rintro ⟨l, hadd⟩
    exact ⟨(t', l), hadd, rfl⟩

/-- Some links have been added to a network that join what they should join. -/
def HasAdded (t : Topology) (ends : List (Value × Value)) (t' : Topology) : Prop :=
  t'.Reachable ∧ ∃ links, t' = { t with links := t.links ++ links } ∧
    List.Forall₂ t.Joins ends links

lemma HasAdded.nil (ht : t.Reachable) : HasAdded t [] t := by
  refine ⟨ht, [], ?_, .nil⟩
  rw [List.append_nil]

lemma HasAdded.trans {t'' : Topology} {before later : List (Value × Value)}
    (h : HasAdded t before t') (h' : HasAdded t' later t'') : HasAdded t (before ++ later) t'' := by
  obtain ⟨-, links, rfl, hlinks⟩ := h
  obtain ⟨hreachable, links', rfl, hlinks'⟩ := h'
  refine ⟨hreachable, links ++ links', ?_, List.rel_append hlinks hlinks'⟩
  rw [List.append_assoc]

/-- The links of a declared router have been added. -/
lemma hasAdded_of_addLinksOf {r : LogicalRouter} (ht : t.Reachable) (h : addLinksOf t r = .ok t') :
    HasAdded t r.ends t' := by
  rw [addLinksOf_eq, Except.bind_eq_ok] at h
  obtain ⟨source, hsource, hfold⟩ := h
  refine Except.foldlM_induction (P := fun done t' => HasAdded t (done.map (r.id, ·)) t') hfold
    (.nil ht) ?_
  intro done id s s' hdone hadd
  obtain ⟨sink, hsink, l, hadd⟩ := addLinkTo_eq_ok.1 hadd
  rw [List.map_append]
  refine hdone.trans ?_
  obtain ⟨hreachable, links, rfl, -⟩ := hdone
  obtain ⟨hs', hjoins⟩ : _ ∧ Topology.Joins _ (r.id, id) l :=
    hreachable.joins_of_addLink hsource hsink hadd
  exact ⟨.addLink _ _ hreachable hadd, [l], hs', .cons hjoins .nil⟩

/-- The links of all declared routers have been added, in order, and nothing else has happened. -/
theorem hasAdded_of_addLinks (ht : t.Reachable) (h : rs.foldlM addLinksOf t = .ok t') :
    HasAdded t (rs.flatMap LogicalRouter.ends) t' := by
  refine Except.foldlM_induction (P := fun done t' => HasAdded t (done.flatMap (·.ends)) t') h
    (.nil ht) ?_
  intro done r s s' hdone hadd
  rw [List.flatMap_append, List.flatMap_singleton]
  exact hdone.trans (hasAdded_of_addLinksOf hdone.1 hadd)

/-- The links that declared routers declare can be added, if all of them could join what they
should. -/
theorem exists_addLinks (ht : t.Reachable) (hwhole : t.HasWholePositions)
    (hbuilt : t.compressed = none) (hids : ∀ r ∈ rs, ∃ p ∈ t.routers, p.id.same r.id = true)
    (hends : ∀ r ∈ rs, ∀ ends ∈ r.ends, t.CanJoin ends) :
    ∃ t', rs.foldlM addLinksOf t = .ok t' ∧ t'.routers = t.routers ∧ t'.compressed = none := by
  -- adding links keeps what adding the next one needs
  let P (s : Topology) : Prop :=
    s.Reachable ∧ s.routers = t.routers ∧ s.compressed = none
  have hfold : ∃ t', rs.foldlM addLinksOf t = .ok t' ∧ P t' := by
    refine Except.exists_foldlM ⟨ht, rfl, hbuilt⟩ ?_
    intro r hr s hs
    obtain ⟨p, hp, hpid⟩ := hids r hr
    have hsource : t.routerWithId r.id = .ok p.index :=
      ht.routerWithId_eq_ok_iff.2 ⟨p, ht.getElem?_index hp, hpid⟩
    rw [addLinksOf_eq, Topology.routerWithId_congr hs.2.1, hsource, Except.ok_bind]
    refine Except.exists_foldlM hs ?_
    intro id hid s hs
    obtain ⟨hreachable, hrouters, hnone⟩ := hs
    have hwhole' : s.HasWholePositions := by
      intro q hq
      rw [hrouters] at hq
      exact hwhole q hq
    have hjoin : s.CanJoin (r.id, id) := by
      have hmem : (r.id, id) ∈ r.ends := List.mem_map_of_mem hid
      have hcan := hends r hr _ hmem
      rwa [Topology.CanJoin, ← hrouters] at hcan
    have hsource' : s.routerWithId r.id = .ok p.index := by
      rw [Topology.routerWithId_congr hrouters, hsource]
    obtain ⟨sink, hsink, s', l, hadd, hreachable', hrouters', hnone'⟩ :=
      hreachable.exists_addLink hwhole' hnone hsource' hjoin
    exact ⟨s', addLinkTo_eq_ok.2 ⟨sink, hsink, l, hadd⟩, hreachable', hrouters'.trans hrouters,
      hnone'⟩
  obtain ⟨t', ht', -, hrouters, hnone⟩ := hfold
  exact ⟨t', ht', hrouters, hnone⟩

end Realisation

end NocRouting
