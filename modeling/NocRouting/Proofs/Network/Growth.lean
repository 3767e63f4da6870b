import Mathlib.Data.List.Nodup
import NocRouting.Proofs.Outcome
import NocRouting.Topology.Basic
import NocRouting.Traffic

/-!
# Networks and traffic that can arise

A network grows router by router and link by link until it is finished, and traffic grows flow by
flow.  Nothing else leads to a network or to traffic, so what every one of these operations keeps
holds of all of them.

* `Topology.Reachable` and `Traffic.Reachable` are the networks and the traffic that can arise.
* `Topology.IsSound` says that routers and links are numbered in order, and that every link joins
  two different routers of the network; `Topology.Reachable.isSound` says that this never fails.
* `Traffic.Reachable.ids` says that flows are numbered in order.
-/

namespace NocRouting

namespace Topology

/-- The networks that can be built. -/
inductive Reachable : Topology → Prop
  /-- A network begins without routers. -/
  | bare (linkBandwidth linkLatency routerLatency : Value) :
    Reachable (bare linkBandwidth linkLatency routerLatency)
  /-- A router is added. -/
  | addRouter {t t' : Topology} {r : Router} (id : Value) (position : Position) :
    Reachable t → t.addRouter id position = .ok (t', r) → Reachable t'
  /-- A link is added. -/
  | addLink {t t' : Topology} {l : Link} (source sink : Value) :
    Reachable t → t.addLink source sink = .ok (t', l) → Reachable t'
  /-- The network is finished. -/
  | finish {t t' : Topology} : Reachable t → t.finish = .ok t' → Reachable t'

/-- Routers and links are numbered in order, and links join different routers. -/
structure IsSound (t : Topology) : Prop where
  router_index : t.routers.map (·.index) = List.range t.routers.length
  link_index : t.links.map (·.index) = List.range t.links.length
  source_lt : ∀ l ∈ t.links, l.source < t.routers.length
  sink_lt : ∀ l ∈ t.links, l.sink < t.routers.length
  source_ne_sink : ∀ l ∈ t.links, l.source ≠ l.sink
  shownSource : ∀ l ∈ t.links, l.shownSource.value = l.source
  shownSink : ∀ l ∈ t.links, l.shownSink.value = l.sink

/-! ### What the operations do -/

lemma requireUnbuilt_eq_ok {t : Topology} {u : Unit} :
    t.requireUnbuilt = .ok u ↔ t.compressed = none := by
  cases h : t.compressed <;> simp [requireUnbuilt, isBuilt, h]

/-- A router is added to a network that is not finished, under an identifier and at a position that
are not in use. -/
lemma addRouter_eq_ok {t t' : Topology} {r : Router} {id : Value} {position : Position}
    (h : t.addRouter id position = .ok (t', r)) :
    t.compressed = none ∧ id.isKey = true ∧ position.toValues.all (·.isKey) = true ∧
      (∀ q ∈ t.routers, q.id.same id = false) ∧
      (∀ q ∈ t.routers, q.position.same position = false) ∧
      r = ⟨t.routers.length, id, position⟩ ∧ t' = { t with routers := t.routers ++ [r] } := by
  simp only [addRouter, Except.bind_eq_ok, requireUnbuilt_eq_ok] at h
  obtain ⟨-, hbuilt, id', hid, h⟩ := h
  have hid' : id.isKey = true ∧ id' = id := by
    unfold Value.asKey at hid
    split at hid <;> simp_all
  obtain ⟨hkey, rfl⟩ := hid'
  split at h
  · exact absurd h Except.throw_bind_ne_ok
  · next hfresh =>
    simp only [Except.bind_eq_ok] at h
    obtain ⟨position', hposition, h⟩ := h
    have hposition' : position.toValues.all (·.isKey) = true ∧ position' = position := by
      unfold Position.asKey at hposition
      split at hposition <;> simp_all
    obtain ⟨hkeys, rfl⟩ := hposition'
    split at h
    · exact absurd h Except.throw_bind_ne_ok
    · next hfree =>
      simp only [Except.pure_eq_ok, Prod.mk.injEq] at h
      obtain ⟨rfl, rfl⟩ := h
      refine ⟨hbuilt, hkey, hkeys, by simpa using hfresh, ?_, rfl, rfl⟩
      simpa using List.find?_eq_none.1 (Option.eq_none_iff_forall_ne_some.2 hfree)

/-- A value that is the number of a router, in whatever form. -/
lemma requireRouter_eq_ok {t : Topology} {v : Value} {i : Index} {u : Unit}
    (h : t.requireRouter v = .ok u) (hi : Index.ofValue v = .ok i) :
    0 ≤ i.value ∧ i.value < t.routers.length := by
  have hn : v.asNumber = .ok (.int i.value) := by
    unfold Index.ofValue at hi
    split at hi
    · obtain rfl := Except.ok.inj hi
      rfl
    · obtain rfl := Except.ok.inj hi
      rfl
    · simp at hi
  simp only [requireRouter, Except.bind_eq_ok, hn, Except.ok.injEq, exists_eq_left'] at h
  split at h
  · next hbounds =>
    have h0 : Number.le 0 (.int i.value) = decide (0 ≤ i.value) := rfl
    simpa [h0] using hbounds
  · simp at h

/-- An index that counts from the beginning is kept. -/
lemma eq_of_resolveIndex {length n k : Nat} (h : resolveIndex length n = .ok k) : k = n := by
  simp only [resolveIndex, Int.not_ofNat_neg, if_false] at h
  split at h
  · simpa using h.symm
  · simp at h

/-- The item that an index picks which counts from the beginning. -/
lemma getElem?_of_itemAt {α : Type} {items : List α} {i : Nat} {a : α}
    (h : itemAt items i = .ok a) : items[i]? = some a := by
  obtain ⟨k, hk, hitem⟩ := Except.bind_eq_ok.1 h
  obtain rfl := eq_of_resolveIndex hk
  split at hitem
  · next b hb => rw [hb, Except.pure_eq_ok.1 hitem]
  · simp at hitem

lemma routerAtIndex_eq_ok {t : Topology} {i : Int} {r : Router} (h₀ : 0 ≤ i)
    (h : t.routerAtIndex i = .ok r) : t.routers[i.toNat]? = some r := by
  obtain ⟨n, rfl⟩ := Int.eq_ofNat_of_zero_le h₀
  exact getElem?_of_itemAt h

/-- Two forms of one number are equal values. -/
lemma eqv_of_value_eq {v w : Value} {i j : Index} (hv : Index.ofValue v = .ok i)
    (hw : Index.ofValue w = .ok j) : v.eqv w = (i.value == j.value) := by
  unfold Index.ofValue at hv hw
  split at hv <;> split at hw <;> cases hv <;> cases hw <;>
    simp [Value.eqv, Value.same, Value.number?, Number.eqv, Number.exact, Exact.ofInt, Index.value]

/-- A link is added between two different routers of a network that is not finished. -/
lemma addLink_eq_ok {t t' : Topology} {l : Link} {source sink : Value}
    (h : t.addLink source sink = .ok (t', l)) :
    ∃ tail head a b direction, t.compressed = none ∧
      Index.ofValue source = .ok tail ∧ Index.ofValue sink = .ok head ∧
      (0 ≤ tail.value ∧ tail.value < t.routers.length) ∧
      (0 ≤ head.value ∧ head.value < t.routers.length) ∧ tail.value ≠ head.value ∧
      t.routers[tail.value.toNat]? = some a ∧ t.routers[head.value.toNat]? = some b ∧
      directionBetween a b = .ok direction ∧
      l = ⟨t.links.length, a.index, b.index, tail, head, direction, t.linkBandwidth,
        t.linkLatency⟩ ∧ t' = { t with links := t.links ++ [l] } := by
  simp only [addLink, Except.bind_eq_ok, requireUnbuilt_eq_ok] at h
  obtain ⟨-, hbuilt, _, hsource, _, hsink, tail, htail, a, ha, h⟩ := h
  split at h
  · exact absurd h Except.throw_bind_ne_ok
  · next hself =>
    simp only [Except.bind_eq_ok, Except.pure_eq_ok, Prod.mk.injEq] at h
    obtain ⟨head, hhead, b, hb, direction, hdir, rfl, rfl⟩ := h
    have ht := requireRouter_eq_ok hsource htail
    have hh := requireRouter_eq_ok hsink hhead
    refine ⟨tail, head, a, b, direction, hbuilt, htail, hhead, ht, hh, ?_,
      routerAtIndex_eq_ok ht.1 ha, routerAtIndex_eq_ok hh.1 hb, hdir, rfl, rfl⟩
    simpa [eqv_of_value_eq htail hhead] using hself

lemma finish_eq_ok {t t' : Topology} (h : t.finish = .ok t') :
    t.compressed = none ∧ areOrdered t.routers = true ∧
      t' = { t with compressed := some (compress t.routers) } := by
  simp only [finish, Except.bind_eq_ok, requireUnbuilt_eq_ok] at h
  obtain ⟨-, hbuilt, h⟩ := h
  split at h
  · next hordered => exact ⟨hbuilt, hordered, (Except.pure_eq_ok.1 h).symm⟩
  · exact absurd h Except.throw_bind_ne_ok

/-! ### What never fails -/

namespace IsSound

variable {t : Topology} (h : t.IsSound)
include h

lemma index_of_getElem? {i : Nat} {r : Router} (hr : t.routers[i]? = some r) : r.index = i := by
  have hi : (t.routers.map (·.index))[i]? = some r.index := by simp [hr]
  rw [h.router_index, List.getElem?_range (List.getElem?_eq_some_iff.1 hr).1] at hi
  exact (Option.some.inj hi).symm

lemma links_nodup : (t.links.map (·.index)).Nodup := by
  rw [h.link_index]
  exact List.nodup_range

/-- A link is determined by its number. -/
lemma link_ext {k l : Link} (hk : k ∈ t.links) (hl : l ∈ t.links) (hi : k.index = l.index) :
    k = l :=
  List.inj_on_of_nodup_map h.links_nodup hk hl hi

end IsSound

theorem Reachable.isSound {t : Topology} (h : t.Reachable) : t.IsSound := by
  induction h with
  | bare linkBandwidth linkLatency routerLatency =>
    constructor <;> simp [Topology.bare]
  | addRouter id position _ hadd ih =>
    obtain ⟨-, -, -, -, -, rfl, rfl⟩ := addRouter_eq_ok hadd
    refine ⟨?_, ih.link_index, ?_, ?_, ih.source_ne_sink, ih.shownSource, ih.shownSink⟩
    · simp [ih.router_index, List.range_succ]
    · intro l hl
      simpa using Nat.lt_succ_of_lt (ih.source_lt l hl)
    · intro l hl
      simpa using Nat.lt_succ_of_lt (ih.sink_lt l hl)
  | addLink source sink _ hadd ih =>
    obtain ⟨tail, head, a, b, direction, -, -, -, ht, hh, hne, ha, hb, -, rfl, rfl⟩ :=
      addLink_eq_ok hadd
    -- the new link shows the numbers of the routers it joins
    have hai := ih.index_of_getElem? ha
    have hbi := ih.index_of_getElem? hb
    refine ⟨ih.router_index, ?_, ?_, ?_, ?_, ?_, ?_⟩
    · simp [ih.link_index, List.range_succ]
    · simp only [List.mem_append, List.mem_singleton]
      rintro l (hl | rfl)
      · exact ih.source_lt l hl
      · simp only [hai]
        omega
    · simp only [List.mem_append, List.mem_singleton]
      rintro l (hl | rfl)
      · exact ih.sink_lt l hl
      · simp only [hbi]
        omega
    · simp only [List.mem_append, List.mem_singleton]
      rintro l (hl | rfl)
      · exact ih.source_ne_sink l hl
      · simp only [hai, hbi]
        omega
    · simp only [List.mem_append, List.mem_singleton]
      rintro l (hl | rfl)
      · exact ih.shownSource l hl
      · simp only [hai]
        omega
    · simp only [List.mem_append, List.mem_singleton]
      rintro l (hl | rfl)
      · exact ih.shownSink l hl
      · simp only [hbi]
        omega
  | finish _ hfinish ih =>
    obtain ⟨-, -, rfl⟩ := finish_eq_ok hfinish
    exact ⟨ih.router_index, ih.link_index, ih.source_lt, ih.sink_lt, ih.source_ne_sink,
      ih.shownSource, ih.shownSink⟩

end Topology

namespace Traffic

/-- The traffic that can arise. -/
inductive Reachable : Traffic → Prop
  /-- Traffic begins without flows. -/
  | empty : Reachable []
  /-- A flow is added. -/
  | add {t t' : Traffic} {f : Flow} (r : FlowRequest) :
    Reachable t → t.add r = .ok (t', f) → Reachable t'
  /-- A known route is recorded. -/
  | setRoute {t t' : Traffic} (index : Int) (route : Value) :
    Reachable t → t.setRoute index route = .ok t' → Reachable t'

/-- A flow that is added comes last, and is what was asked for. -/
lemma add_eq_ok {t t' : Traffic} {r : FlowRequest} {f : Flow} (h : t.add r = .ok (t', f)) :
    ∃ route, r.route.asMembers = .ok route ∧ t' = t ++ [f] ∧
      f = ⟨t.length, r.source, r.sink, r.bandwidth, r.maxLatency, r.name, route⟩ := by
  obtain ⟨n, -, h⟩ := Except.bind_eq_ok.1 h
  split at h
  · exact absurd h Except.throw_bind_ne_ok
  · obtain ⟨route, hroute, hpure⟩ := Except.bind_eq_ok.1 h
    obtain ⟨rfl, rfl⟩ := Prod.mk.inj (Except.pure_eq_ok.1 hpure)
    exact ⟨route, hroute, rfl, rfl⟩

/-- Flows are numbered in order. -/
theorem Reachable.ids {t : Traffic} (h : t.Reachable) :
    t.map (·.id) = List.range t.length := by
  induction h with
  | empty => rfl
  | add r _ hadd ih =>
    obtain ⟨route, -, rfl, rfl⟩ := add_eq_ok hadd
    simp [ih, List.range_succ]
  | @setRoute t t' index route _ hset ih =>
    simp only [Traffic.setRoute, Except.bind_eq_ok, Except.pure_eq_ok] at hset
    obtain ⟨items, -, i, -, rfl⟩ := hset
    have hids : (t.modify i fun f => { f with route := items }).map (·.id) = t.map (·.id) := by
      apply List.ext_getElem
      · simp
      · intro k hk hk'
        simp only [List.getElem_map, List.getElem_modify]
        split <;> rfl
    rw [hids, ih, List.length_modify]

lemma Reachable.id_of_getElem? {t : Traffic} (h : t.Reachable) {i : Nat} {f : Flow}
    (hf : t[i]? = some f) : f.id = i := by
  have hi : (t.map (·.id))[i]? = some f.id := by simp [hf]
  rw [h.ids, List.getElem?_range (List.getElem?_eq_some_iff.1 hf).1] at hi
  exact (Option.some.inj hi).symm

end Traffic

end NocRouting
