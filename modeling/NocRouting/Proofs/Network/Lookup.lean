import NocRouting.Proofs.Network.Acceptance

/-!
# Finding routers and links

Routers are found by their identifiers and by their positions, and links at the routers that they
join.  No two routers share an identifier or a position, so what is found is what was looked for.

* `Topology.Reachable.isIdentified` says that routers have identifiers of their own.
* `Topology.Reachable.routerWithId_eq_ok_iff` and `Topology.Reachable.routerAt_eq_ok_iff` say which
  router is found.
* `Topology.Reachable.exists_outgoingAt` and `Topology.Reachable.exists_incomingAt` say which links
  are found.
-/

namespace NocRouting

namespace Topology

/-- Routers have identifiers of their own. -/
structure IsIdentified (t : Topology) : Prop where
  idKey : ∀ r ∈ t.routers, r.id.isKey = true
  positionKey : ∀ r ∈ t.routers, r.position.IsKey
  apart : t.routers.Pairwise fun p q => p.id.same q.id = false

theorem Reachable.isIdentified {t : Topology} (h : t.Reachable) : t.IsIdentified := by
  induction h with
  | bare linkBandwidth linkLatency routerLatency =>
    constructor <;> simp [Topology.bare]
  | addRouter id position _ hadd ih =>
    obtain ⟨-, hid, hposition, hfresh, -, rfl, rfl⟩ := addRouter_eq_ok hadd
    refine ⟨?_, ?_, ?_⟩
    · exact List.forall_mem_append.2 ⟨ih.idKey, List.forall_mem_singleton.2 hid⟩
    · exact List.forall_mem_append.2 ⟨ih.positionKey, List.forall_mem_singleton.2 hposition⟩
    · rw [List.pairwise_append]
      exact ⟨ih.apart, List.pairwise_singleton _ _, by simpa using hfresh⟩
  | addLink source sink _ hadd ih =>
    obtain ⟨_, _, _, _, _, -, -, -, -, -, -, -, -, -, -, rfl⟩ := addLink_eq_ok hadd
    exact ⟨ih.idKey, ih.positionKey, ih.apart⟩
  | finish _ hfinish ih =>
    obtain ⟨-, -, rfl⟩ := finish_eq_ok hfinish
    exact ⟨ih.idKey, ih.positionKey, ih.apart⟩

namespace Reachable

variable {t : Topology} (h : t.Reachable)
include h

/-- At most one router has an identifier. -/
lemma eq_of_id_same {a b : Router} (ha : a ∈ t.routers) (hb : b ∈ t.routers) {id : Value}
    (haid : a.id.same id = true) (hbid : b.id.same id = true) : a = b := by
  have hid := h.isIdentified
  have hida := hid.idKey a ha
  have hidb := hid.idKey b hb
  have hidk := Value.isKey_of_same hida haid
  have hab : a.id.same b.id = true := Value.same_trans hida hidk haid (Value.same_symm hidb hbid)
  exact eq_of_pairwise hid.apart ha hb (by simp [hab]) (by simp [Value.same_symm hida hab])

/-- At most one router is at a position. -/
lemma eq_of_position_same {a b : Router} (ha : a ∈ t.routers) (hb : b ∈ t.routers) {p : Position}
    (hap : a.position.same p = true) (hbp : b.position.same p = true) : a = b := by
  have hid := h.isIdentified
  have hka := hid.positionKey a ha
  have hkb := hid.positionKey b hb
  have hkp := Position.isKey_of_same hka hap
  have hab : a.position.same b.position = true :=
    Position.same_trans hka hkp hap (Position.same_symm hkb hbp)
  exact eq_of_pairwise h.isPlaced.apart ha hb (by simp [hab])
    (by simp [Position.same_symm hka hab])

lemma getElem?_index {r : Router} (hr : r ∈ t.routers) : t.routers[r.index]? = some r := by
  obtain ⟨i, hi⟩ := List.mem_iff_getElem?.1 hr
  rwa [h.isSound.index_of_getElem? hi]

lemma link_index_of_getElem? {j : Nat} {l : Link} (hj : t.links[j]? = some l) : l.index = j := by
  have hindex : (t.links.map (·.index))[j]? = some l.index := by
    rw [List.getElem?_map, hj]
    rfl
  rw [h.isSound.link_index, List.getElem?_range (List.getElem?_eq_some_iff.1 hj).1] at hindex
  exact (Option.some.inj hindex).symm

lemma link_getElem?_index {l : Link} (hl : l ∈ t.links) : t.links[l.index]? = some l := by
  obtain ⟨j, hj⟩ := List.mem_iff_getElem?.1 hl
  rwa [h.link_index_of_getElem? hj]

/-- A router is found by its identifier, and by no other. -/
theorem routerWithId_eq_ok_iff {id : Value} {i : Nat} :
    t.routerWithId id = .ok i ↔ ∃ r, t.routers[i]? = some r ∧ r.id.same id = true := by
  have hfind : ∀ r, t.routers.find? (·.id.same id) = some r ↔
      r ∈ t.routers ∧ r.id.same id = true := fun r =>
    find?_eq_some_iff_mem fun a ha b hb => h.eq_of_id_same ha hb
  constructor
  · intro hi
    obtain ⟨id', hid', hi'⟩ := Except.bind_eq_ok.1 hi
    obtain rfl := Value.eq_of_asKey hid'
    split at hi'
    · next r hr =>
      obtain ⟨hmem, hsame⟩ := (hfind r).1 hr
      obtain rfl := Except.pure_eq_ok.1 hi'
      exact ⟨r, h.getElem?_index hmem, hsame⟩
    · simp at hi'
  · rintro ⟨r, hr, hsame⟩
    have hmem := List.mem_of_getElem? hr
    have hkey := Value.isKey_of_same (h.isIdentified.idKey r hmem) hsame
    simp only [routerWithId, Value.asKey_eq hkey, Except.ok_bind, (hfind r).2 ⟨hmem, hsame⟩]
    rw [h.isSound.index_of_getElem? hr]
    rfl

/-- A router is found by its position, and by no other. -/
theorem routerAt_eq_ok_iff {x y layer : Value} {i : Nat} : t.routerAt [x, y, layer] = .ok i ↔
    ∃ r, t.routers[i]? = some r ∧ r.position.same ⟨x, y, layer⟩ = true := by
  have hfind : ∀ r, t.routers.find? (·.position.same ⟨x, y, layer⟩) = some r ↔
      r ∈ t.routers ∧ r.position.same ⟨x, y, layer⟩ = true := fun r =>
    find?_eq_some_iff_mem fun a ha b hb => h.eq_of_position_same ha hb
  constructor
  · intro hi
    obtain ⟨p, hp, hi'⟩ := Except.bind_eq_ok.1 hi
    obtain rfl := Position.eq_of_asKey hp
    split at hi'
    · next r hr =>
      obtain ⟨hmem, hsame⟩ := (hfind r).1 hr
      obtain rfl := Except.pure_eq_ok.1 hi'
      exact ⟨r, h.getElem?_index hmem, hsame⟩
    · simp at hi'
  · rintro ⟨r, hr, hsame⟩
    have hmem := List.mem_of_getElem? hr
    have hkey := Position.isKey_of_same (h.isIdentified.positionKey r hmem) hsame
    simp only [routerAt, routerAt.find, Position.asKey_eq hkey, Except.ok_bind,
      (hfind r).2 ⟨hmem, hsame⟩]
    rw [h.isSound.index_of_getElem? hr]
    rfl

/-- The links with a property come in increasing order. -/
lemma pairwise_index_filter (p : Link → Bool) :
    ((t.links.filter p).map (·.index)).Pairwise (· < ·) := by
  have hsub : ((t.links.filter p).map (·.index)).Sublist (List.range t.links.length) := by
    rw [← h.isSound.link_index]
    exact List.filter_sublist.map _
  exact List.pairwise_lt_range.sublist hsub

lemma mem_index_filter {p : Link → Bool} {j : Nat} :
    j ∈ (t.links.filter p).map (·.index) ↔ ∃ l, t.links[j]? = some l ∧ p l = true := by
  simp only [List.mem_map, List.mem_filter]
  constructor
  · rintro ⟨l, ⟨hl, hp⟩, rfl⟩
    exact ⟨l, h.link_getElem?_index hl, hp⟩
  · rintro ⟨l, hj, hp⟩
    have hl := List.mem_of_getElem? hj
    exact ⟨l, ⟨hl, hp⟩, h.link_index_of_getElem? hj⟩

/-- The links that leave a router, by number. -/
theorem exists_outgoingAt {i : Nat} (hi : i < t.routers.length) :
    ∃ js, t.outgoingAt i = .ok js ∧ js.Pairwise (· < ·) ∧
      ∀ j, j ∈ js ↔ ∃ l, t.links[j]? = some l ∧ l.source = i := by
  refine ⟨(t.outgoing i).map (·.index), ?_, h.pairwise_index_filter _, fun j => ?_⟩
  · simp only [outgoingAt, resolveIndex_ofNat hi, Except.ok_bind]
    rfl
  · rw [outgoing, h.mem_index_filter]
    simp only [beq_iff_eq]

/-- The links that enter a router, by number. -/
theorem exists_incomingAt {i : Nat} (hi : i < t.routers.length) :
    ∃ js, t.incomingAt i = .ok js ∧ js.Pairwise (· < ·) ∧
      ∀ j, j ∈ js ↔ ∃ l, t.links[j]? = some l ∧ l.sink = i := by
  refine ⟨(t.incoming i).map (·.index), ?_, h.pairwise_index_filter _, fun j => ?_⟩
  · simp only [incomingAt, resolveIndex_ofNat hi, Except.ok_bind]
    rfl
  · rw [incoming, h.mem_index_filter]
    simp only [beq_iff_eq]

end Reachable

end Topology

end NocRouting
