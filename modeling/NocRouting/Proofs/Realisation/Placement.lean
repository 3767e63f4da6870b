import NocRouting.Proofs.Device.Cells
import NocRouting.Proofs.Network.Lookup
import NocRouting.Realisation

/-!
# Putting declared routers on tiles

Every declared router chooses a tile, which depends on nothing but the router and the tiles.  The
routers of a network are put on their tiles one after the other, and that succeeds exactly if no two
of them have the same identifier or choose the same tile.

* `Realisation.Hosts` says that a router of a network is where a declared router belongs.
* `Realisation.exists_of_addRouters` says what routers have been added, and
  `Realisation.exists_addRouters` when they can be.
-/

namespace NocRouting

namespace Realisation

/-! ### Tiles that are chosen -/

section Choose

variable {tiles : List TileSite} {r r' : LogicalRouter} {s s' : TileSite}

lemma mem_of_tileAt {i : Nat} (h : tileAt tiles i = .ok s) : s ∈ tiles := by
  unfold tileAt at h
  split at h
  · next hs =>
    obtain rfl := Except.ok.inj h
    exact List.mem_of_getElem? hs
  · cases h

/-- What a router chooses is one of the tiles. -/
lemma mem_of_choose (h : choose tiles r = .ok s) : s ∈ tiles := by
  obtain ⟨ds, -, hds⟩ := Except.bind_eq_ok.1 h
  split at hds
  · exact absurd hds Except.throw_ne_ok
  · obtain ⟨row, -, hrow⟩ := Except.bind_eq_ok.1 hds
    split at hrow
    · obtain ⟨a, -, ha⟩ := Except.bind_eq_ok.1 hrow
      obtain ⟨b, -, hb⟩ := Except.bind_eq_ok.1 ha
      exact absurd hb Except.throw_ne_ok
    · exact mem_of_tileAt hrow

/-- Tiles that are chosen are the same exactly if their positions are. -/
lemma position_same_iff (hsites : AreSites tiles) (h : choose tiles r = .ok s)
    (h' : choose tiles r' = .ok s') :
    s.position.same s'.position = true ↔ choose tiles r = choose tiles r' := by
  have hs := mem_of_choose h
  have hs' := mem_of_choose h'
  have hwhole := hsites.whole s hs
  rw [h, h', Except.ok.injEq]
  constructor
  · intro hsame
    have hsymm := Position.same_symm hwhole.isKey hsame
    exact eq_of_pairwise hsites.apart hs hs' (by simp [hsame]) (by simp [hsymm])
  · rintro rfl
    exact Position.same_self hwhole.isKey

end Choose

/-! ### Routers that are added -/

/-- A router of a network is where a declared router belongs: it has its identifier, and is on the
tile that it chooses. -/
def Hosts (tiles : List TileSite) (r : LogicalRouter) (q : Router) : Prop :=
  q.id = r.id ∧ ∃ s, choose tiles r = .ok s ∧ q.position = s.position

/-- Routers can be put on tiles: they can be told apart by their identifiers, and choose different
tiles. -/
structure Placeable (tiles : List TileSite) (rs : List LogicalRouter) : Prop where
  ids : ∀ r ∈ rs, r.id.isKey = true
  chosen : ∀ r ∈ rs, ∃ s, choose tiles r = .ok s
  apart : rs.Pairwise fun r r' =>
    r.id.identity ≠ r'.id.identity ∧ choose tiles r ≠ choose tiles r'

section Routers

variable {tiles : List TileSite} {rs : List LogicalRouter} {taken : List (Position × Value)}
  {t t' : Topology}

lemma addRouters_cons {r : LogicalRouter} : addRouters tiles (r :: rs) taken t = .ok t' ↔
    ∃ s, choose tiles r = .ok s ∧ holder? taken s = none ∧
      ∃ t₁ q, t.addRouter r.id s.position = .ok (t₁, q) ∧
        addRouters tiles rs ((s.position, r.id) :: taken) t₁ = .ok t' := by
  rw [addRouters, Except.bind_eq_ok]
  refine exists_congr fun s => and_congr_right fun _ => ?_
  cases holder? taken s with
  | none =>
    rw [eq_self, true_and]
    constructor
    · intro h
      obtain ⟨⟨t₁, q⟩, hadd, hrest⟩ := Except.bind_eq_ok.1 h
      exact ⟨t₁, q, hadd, hrest⟩
    · rintro ⟨t₁, q, hadd, hrest⟩
      exact Except.bind_eq_ok.2 ⟨(t₁, q), hadd, hrest⟩
  | some earlier =>
    refine ⟨fun h => absurd h Except.throw_bind_ne_ok, ?_⟩
    rintro ⟨hnone, -⟩
    cases hnone

/-- Every declared router has been added where it belongs, and nothing else has happened. -/
theorem exists_of_addRouters (ht : t.Reachable) (h : addRouters tiles rs taken t = .ok t') :
    t'.Reachable ∧ ∃ added, t' = { t with routers := t.routers ++ added } ∧
      List.Forall₂ (Hosts tiles) rs added := by
  induction rs generalizing taken t with
  | nil =>
    obtain rfl := Except.pure_eq_ok.1 h
    refine ⟨ht, [], ?_, .nil⟩
    rw [List.append_nil]
  | cons r rs ih =>
    obtain ⟨s, hs, -, t₁, q, hadd, hrest⟩ := addRouters_cons.1 h
    obtain ⟨hreachable, added, rfl, hhosts⟩ := ih (.addRouter _ _ ht hadd) hrest
    obtain ⟨-, -, -, -, -, rfl, rfl⟩ := Topology.addRouter_eq_ok hadd
    refine ⟨hreachable, ⟨t.routers.length, r.id, s.position⟩ :: added, ?_,
      .cons ⟨rfl, s, hs, rfl⟩ hhosts⟩
    rw [List.append_assoc, List.singleton_append]

/-- A tile has a holder exactly if there is a router on it, as long as the tiles that are taken are
those of the routers. -/
lemma holder?_eq_none {s : TileSite}
    (htaken : ∀ p, taken.any (·.1.same p) = t.routers.any (·.position.same p)) :
    holder? taken s = none ↔ ∀ q ∈ t.routers, q.position.same s.position = false := by
  have hany : holder? taken s = none ↔ taken.any (·.1.same s.position) = false := by
    rw [holder?, Option.map_eq_none_iff, List.find?_eq_none, List.any_eq_false]
  rw [hany, htaken, List.any_eq_false]
  simp only [Bool.not_eq_true]

/-- Routers that can be put on tiles are, where neither their identifiers nor their tiles are in use
yet. -/
theorem exists_addRouters (hsites : AreSites tiles) (hrs : Placeable tiles rs)
    (hbuilt : t.compressed = none)
    (htaken : ∀ p, taken.any (·.1.same p) = t.routers.any (·.position.same p))
    (hfresh : ∀ q ∈ t.routers, ∀ r ∈ rs, q.id.same r.id = false)
    (hfree : ∀ q ∈ t.routers, ∀ r ∈ rs, ∀ s, choose tiles r = .ok s →
      q.position.same s.position = false) :
    ∃ t', addRouters tiles rs taken t = .ok t' := by
  induction rs generalizing taken t with
  | nil => exact ⟨t, rfl⟩
  | cons r rs ih =>
    obtain ⟨s, hs⟩ := hrs.chosen r List.mem_cons_self
    have hid := hrs.ids r List.mem_cons_self
    obtain ⟨hapart, hlater⟩ := List.pairwise_cons.1 hrs.apart
    have hplace : ∀ q ∈ t.routers, q.position.same s.position = false := fun q hq =>
      hfree q hq r List.mem_cons_self s hs
    have hkey : s.position.IsKey := (hsites.whole s (mem_of_choose hs)).isKey
    have hadd := Topology.addRouter_eq hbuilt hid hkey
      (fun q hq => hfresh q hq r List.mem_cons_self) hplace
    -- the routers that follow do not get in the way of the new one either
    have hrest : Placeable tiles rs :=
      ⟨fun r' hr' => hrs.ids r' (List.mem_cons_of_mem r hr'),
        fun r' hr' => hrs.chosen r' (List.mem_cons_of_mem r hr'), hlater⟩
    obtain ⟨t', ht'⟩ : ∃ t', addRouters tiles rs ((s.position, r.id) :: taken)
        { t with routers := t.routers ++ [⟨t.routers.length, r.id, s.position⟩] } = .ok t' := by
      refine ih hrest hbuilt (fun p => ?_) ?_ ?_
      · rw [List.any_cons, htaken, List.any_append, List.any_cons, List.any_nil, Bool.or_false,
          Bool.or_comm]
      · intro q hq r' hr'
        rcases List.mem_append.1 hq with hq | hq
        · exact hfresh q hq r' (List.mem_cons_of_mem r hr')
        · obtain rfl := List.mem_singleton.1 hq
          rw [← Bool.not_eq_true, Value.same_iff hid]
          exact (hapart r' hr').1
      · intro q hq r' hr' s' hs'
        rcases List.mem_append.1 hq with hq | hq
        · exact hfree q hq r' (List.mem_cons_of_mem r hr') s' hs'
        · obtain rfl := List.mem_singleton.1 hq
          rw [← Bool.not_eq_true, position_same_iff hsites hs hs']
          exact (hapart r' hr').2
    exact ⟨t', addRouters_cons.2 ⟨s, hs, (holder?_eq_none htaken).2 hplace, _, _, hadd, ht'⟩⟩

/-- The routers of a network that have been put on tiles could be. -/
theorem placeable_of_hosts (hsites : AreSites tiles) (ht : t.Reachable)
    (h : List.Forall₂ (Hosts tiles) rs t.routers) : Placeable tiles rs where
  ids := by
    intro r hr
    obtain ⟨q, hq, hid, -⟩ := exists_right_of_mem h hr
    rw [← hid]
    exact ht.isIdentified.idKey q hq
  chosen := by
    intro r hr
    obtain ⟨q, hq, -, s, hs, -⟩ := exists_right_of_mem h hr
    exact ⟨s, hs⟩
  apart := by
    have hpairs : t.routers.Pairwise fun p q =>
        p.id.identity ≠ q.id.identity ∧ p.position.same q.position = false := by
      refine (ht.isIdentified.apart.and ht.isPlaced.apart).imp_of_mem fun hp _ hpq => ⟨?_, hpq.2⟩
      rw [ne_eq, ← Value.same_iff (ht.isIdentified.idKey _ hp), hpq.1]
      exact Bool.false_ne_true
    refine pairwise_of_forall₂ h ?_ hpairs
    rintro r r' q q' ⟨hid, s, hs, hq⟩ ⟨hid', s', hs', hq'⟩ ⟨hne, hplace⟩
    rw [hid, hid'] at hne
    rw [hq, hq', ← Bool.not_eq_true, position_same_iff hsites hs hs'] at hplace
    exact ⟨hne, hplace⟩

end Routers

end Realisation

end NocRouting
