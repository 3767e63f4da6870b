import NocRouting.Proofs.Network.Lookup

/-!
# Compressing a network

Columns and rows without a router are taken out when a network is finished.  What is left keeps the
order of the coordinates: routers compare by their compressed positions as they do by their own, and
the compressed coordinates count up from zero without a gap.  Layers stay as they are, so different
routers still have different places.

* `IsRanking` says what it means to number items by a coordinate, and `isRanking_before` that this
  is what counting the smaller coordinates does.
* `Topology.IsCompression` says the same of the routers of a network, column by column and row by
  row.
* `Topology.finish_isCompression` says that a network with routers at whole positions can be
  finished and is then compressed in this way.
-/

namespace NocRouting

/-! ### Numbering by a coordinate -/

/-- Some items are numbered by a coordinate: in its order, from zero up to the number of different
coordinates. -/
structure IsRanking {α : Type} (as : List α) (coordinate : α → Int) (number : α → Nat) : Prop where
  lt_iff : ∀ a ∈ as, ∀ b ∈ as, number a < number b ↔ coordinate a < coordinate b
  eq_iff : ∀ a ∈ as, ∀ b ∈ as, number a = number b ↔ coordinate a = coordinate b
  /-- The numbers leave no gap. -/
  exists_iff : ∀ k, (∃ a ∈ as, number a = k) ↔ k < (as.map coordinate).toFinset.card

/-- Counting the coordinates that lie below numbers the items. -/
lemma isRanking_before {α : Type} {as : List α} {coordinate : α → Int} {number : α → Nat}
    (h : ∀ a ∈ as, number a = before (as.map coordinate).toFinset (coordinate a)) :
    IsRanking as coordinate number := by
  have hmem : ∀ a ∈ as, coordinate a ∈ (as.map coordinate).toFinset :=
    fun a ha => List.mem_toFinset.2 (List.mem_map_of_mem ha)
  refine ⟨?_, ?_, ?_⟩
  · intro a ha b hb
    rw [h a ha, h b hb, before_lt_iff (hmem a ha)]
  · intro a ha b hb
    rw [h a ha, h b hb, before_inj (hmem a ha) (hmem b hb)]
  · intro k
    constructor
    · rintro ⟨a, ha, rfl⟩
      rw [h a ha]
      exact before_lt_card (hmem a ha)
    · intro hk
      obtain ⟨n, hn, rfl⟩ := exists_before hk
      obtain ⟨a, ha, rfl⟩ := List.mem_map.1 (List.mem_toFinset.1 hn)
      exact ⟨a, ha, h a ha⟩

namespace Topology

/-! ### Compressed positions -/

/-- The routers of a network have these compressed positions: their columns and rows are numbered,
each of them stays on its layer, and no two of them meet. -/
structure IsCompression (t : Topology) (compressed : Router → CompressedPosition) : Prop where
  /-- The compressed position of a router is found by its number. -/
  found : ∀ r ∈ t.routers, t.compressedAt (.int r.index) = .ok (compressed r)
  columns : IsRanking t.routers (·.position.x.whole) fun r => (compressed r).x
  rows : IsRanking t.routers (·.position.y.whole) fun r => (compressed r).y
  layer : ∀ r ∈ t.routers, (compressed r).layer = r.position.layer
  apart : ∀ r ∈ t.routers, ∀ s ∈ t.routers, (compressed r).x = (compressed s).x →
    (compressed r).y = (compressed s).y →
    (compressed r).layer.same (compressed s).layer = true → r = s

/-- The columns are the different coordinates of the routers. -/
lemma columns_eq (t : Topology) :
    t.columns = (t.routers.map (·.position.x.whole)).toFinset := by
  rw [columns, wholes, List.map_map]
  rfl

lemma rows_eq (t : Topology) : t.rows = (t.routers.map (·.position.y.whole)).toFinset := by
  rw [rows, wholes, List.map_map]
  rfl

/-- A finished network with routers at whole positions is compressed. -/
theorem IsCharted.exists_isCompression {t : Topology} (h : t.IsCharted) :
    ∃ compressed, t.IsCompression compressed := by
  let compressed (r : Router) : CompressedPosition :=
    ⟨before t.columns r.position.x.whole, before t.rows r.position.y.whole, r.position.layer⟩
  have hcolumns : IsRanking t.routers (·.position.x.whole) fun r => (compressed r).x := by
    refine isRanking_before fun r _ => ?_
    show before t.columns _ = _
    rw [columns_eq]
  have hrows : IsRanking t.routers (·.position.y.whole) fun r => (compressed r).y := by
    refine isRanking_before fun r _ => ?_
    show before t.rows _ = _
    rw [rows_eq]
  refine ⟨compressed, ?_, hcolumns, hrows, fun _ _ => rfl, ?_⟩
  · intro r hr
    exact h.compressedAt_eq (h.reachable.getElem?_index hr)
  · -- routers that meet have the same coordinates, and positions are not taken twice
    intro r hr s hs hx hy hlayer
    have hwr := h.whole r hr
    have hws := h.whole s hs
    have hsame : r.position.same s.position = true := by
      refine (hwr.same_iff hws).2 ⟨(hcolumns.eq_iff r hr s hs).1 hx, ?_, ?_⟩
      · exact (hrows.eq_iff r hr s hs).1 hy
      · exact (hwr.layer.same_iff hws.layer).1 hlayer
    exact h.reachable.eq_of_position_same hr hs hsame (Position.same_self hws.isKey)

/-- A network with routers at whole positions can be finished.  Then the routers are the same, and
their compressed positions keep the order of the coordinates, leave no gap, keep the layers and are
different for different routers. -/
theorem finish_isCompression {t : Topology} (ht : t.Reachable) (hopen : t.isBuilt = false)
    (hwhole : t.HasWholePositions) :
    ∃ t', t.finish = .ok t' ∧ t'.routers = t.routers ∧
      ∃ compressed, t'.IsCompression compressed := by
  have hnone : t.compressed = none := by simpa [isBuilt] using hopen
  have hfinish := finish_eq hnone hwhole
  have hcharted : IsCharted { t with compressed := some (compress t.routers) } :=
    ⟨.finish ht hfinish, rfl, hwhole⟩
  exact ⟨_, hfinish, rfl, hcharted.exists_isCompression⟩

/-- Routers in two columns and three rows that lie far apart, two of them one above the other. -/
def scattered : Topology where
  linkBandwidth := .int 64
  linkLatency := .int 1
  routerLatency := .int 1
  routers := [⟨0, .text "a", .ofInts 1000000 0 0⟩, ⟨1, .text "b", .ofInts (-7) 5 0⟩,
    ⟨2, .text "c", .ofInts (-7) 5 1⟩, ⟨3, .text "d", .ofInts (-7) (-40) 1⟩]
  links := []
  compressed := none

/-- The scattered routers move together until no column and no row is empty. -/
theorem scattered_finish_isCompression : scattered.Reachable ∧ scattered.isBuilt = false ∧
    scattered.HasWholePositions ∧ ∃ t', scattered.finish = .ok t' ∧
      t'.routers = scattered.routers ∧ (∃ compressed, t'.IsCompression compressed) ∧
      t'.compressed.map (·.map fun p => (p.x, p.y, p.layer.whole)) =
        some [(1, 1, 0), (0, 2, 0), (0, 2, 1), (0, 0, 1)] := by
  have hreachable : scattered.Reachable :=
    .addRouter (.text "d") (.ofInts (-7) (-40) 1) (.addRouter (.text "c") (.ofInts (-7) 5 1)
      (.addRouter (.text "b") (.ofInts (-7) 5 0) (.addRouter (.text "a") (.ofInts 1000000 0 0)
        (.bare (.int 64) (.int 1) (.int 1)) rfl) rfl) rfl) rfl
  have hwhole : scattered.HasWholePositions := by
    intro r hr
    simp only [scattered, List.mem_cons, List.not_mem_nil, or_false] at hr
    rcases hr with rfl | rfl | rfl | rfl <;> exact Position.isWhole_ofInts ..
  obtain ⟨t', hfinish, hrouters, hcompression⟩ := finish_isCompression hreachable rfl hwhole
  obtain rfl := Except.ok.inj ((finish_eq rfl hwhole).symm.trans hfinish)
  exact ⟨hreachable, rfl, hwhole, _, hfinish, hrouters, hcompression, by decide +kernel⟩

end Topology

end NocRouting
