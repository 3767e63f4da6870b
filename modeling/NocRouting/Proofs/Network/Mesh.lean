import NocRouting.Proofs.Network.Displacement

/-!
# Paths across a mesh

In a full mesh there is a router wherever a column crosses a row, and links lead both ways between
neighbours.  From any router to any other there is then a path of two straight legs, one along the
row and one along the column.  Every turn model that has a name allows to take the legs in one order
or the other, so a legal path is never longer than it has to be.

* `Topology.IsFullMesh` describes a full mesh.
* `Topology.IsFullMesh.exists_leg` is a straight leg, and `TurnModel.AllowsCorners` the order of
  the legs.
* `Context.exists_isLegalPath` is the path of two legs.
-/

namespace NocRouting

/-! ### Walks that climb -/

/-- A walk that climbs with every link visits no router twice. -/
lemma IsWalk.visits_nodup_of_lt {a b : Nat} {path : List Link} (height : Nat → Int)
    (h : IsWalk a path b) (hclimb : ∀ l ∈ path, height l.source < height l.sink) :
    (visits a path).Nodup := by
  have hchain : (visits a path).IsChain (Order.Preimage height (· < ·)) :=
    h.isChain_visits fun l hl => hclimb l hl
  exact hchain.pairwise.imp fun hlt heq => absurd (heq ▸ hlt) (lt_irrefl _)

/-- How far a place lies in two directions. -/
def Direction.height (d e : Direction) (p : Int × Int) : Int :=
  p.1 * (d.vector.1 + e.vector.1) + p.2 * (d.vector.2 + e.vector.2)

/-! ### Full meshes -/

namespace Topology

/-- A finished network on one layer with a router wherever a column crosses a row, and with links
both ways between neighbours. -/
structure IsFullMesh (t : Topology) : Prop extends t.IsCharted where
  single : ∀ r ∈ t.routers, ∀ s ∈ t.routers, r.position.layer.same s.position.layer = true
  full : ∀ r ∈ t.routers, ∀ s ∈ t.routers, ∃ q ∈ t.routers,
    q.position.x.same r.position.x = true ∧ q.position.y.same s.position.y = true
  linked : ∀ (a b : Nat) p q, t.compressedAt (.int a) = .ok p → t.compressedAt (.int b) = .ok q →
    ((q.x : Int) - p.x).natAbs + ((q.y : Int) - p.y).natAbs = 1 →
      ∃ l ∈ t.links, l.source = a ∧ l.sink = b

/-- The place lies between the columns and rows of a network. -/
def IsInside (t : Topology) (p : Int × Int) : Prop :=
  (0 ≤ p.1 ∧ p.1 < t.columns.card) ∧ 0 ≤ p.2 ∧ p.2 < t.rows.card

/-- A straight leg in a direction. -/
structure IsLeg (t : Topology) (d : Direction) (a : Nat) (path : List Link) (b : Nat) : Prop where
  walk : IsWalk a path b
  steps : ∀ l ∈ path, t.IsStep d l

/-- What lies between two places inside lies inside. -/
lemma IsInside.between {t : Topology} {p : Int × Int} {d : Direction} {n : Nat}
    (hp : t.IsInside p) (hq : t.IsInside (p + (n + 1) • d.vector)) : t.IsInside (p + d.vector) := by
  obtain ⟨x, y⟩ := p
  simp only [IsInside] at hp hq ⊢
  cases d <;> simp [Direction.vector] at hq ⊢ <;> omega

lemma IsCharted.isInside {t : Topology} (h : t.IsCharted) {i : Nat} (hi : i < t.routers.length) :
    t.IsInside (t.place i) := by
  have hr := List.getElem?_eq_getElem hi
  have hmem := List.mem_of_getElem? hr
  rw [h.place_getElem? hr]
  exact ⟨⟨by simp, by simpa using before_lt_card (mem_columns hmem)⟩, by simp,
    by simpa using before_lt_card (mem_rows hmem)⟩

namespace IsFullMesh

variable {t : Topology} (h : t.IsFullMesh)
include h

/-- There is a router at every place inside. -/
lemma exists_router_at {p : Int × Int} (hp : t.IsInside p) :
    ∃ i < t.routers.length, t.place i = p := by
  obtain ⟨x, y⟩ := p
  obtain ⟨⟨hx, hxc⟩, hy, hyc⟩ := hp
  lift x to Nat using hx
  lift y to Nat using hy
  obtain ⟨column, hcolumn, rfl⟩ := exists_before (Int.ofNat_lt.1 hxc)
  obtain ⟨row, hrow, rfl⟩ := exists_before (Int.ofNat_lt.1 hyc)
  simp only [columns, rows, wholes, List.map_map, List.mem_toFinset, List.mem_map] at hcolumn hrow
  obtain ⟨r, hr, rfl⟩ := hcolumn
  obtain ⟨s, hs, rfl⟩ := hrow
  obtain ⟨q, hq, hqr, hqs⟩ := h.full r hr s hs
  obtain ⟨i, hi⟩ := List.getElem?_of_mem hq
  refine ⟨i, (List.getElem?_eq_some_iff.1 hi).1, ?_⟩
  rw [h.place_getElem? hi, ((h.whole q hq).x.same_iff (h.whole r hr).x).1 hqr,
    ((h.whole q hq).y.same_iff (h.whole s hs).y).1 hqs]
  rfl

/-- From every router a link leads a step in every direction that does not lead outside. -/
lemma exists_isStep {i : Nat} (hi : i < t.routers.length) {d : Direction}
    (hin : t.IsInside (t.place i + d.vector)) : ∃ l, t.IsStep d l ∧ l.source = i := by
  obtain ⟨j, hj, hplace⟩ := h.exists_router_at hin
  have hp := h.compressedAt_eq (List.getElem?_eq_getElem hi)
  have hq := h.compressedAt_eq (List.getElem?_eq_getElem hj)
  have hnext : (t.place j - t.place i) = d.vector := by
    rw [hplace, add_sub_cancel_left]
  rw [place_eq hp, place_eq hq] at hnext
  obtain ⟨l, hl, hlsource, hlsink⟩ := h.linked i j _ _ hp hq (by
    rw [Prod.ext_iff] at hnext
    cases d <;> simp_all [Direction.vector])
  exact ⟨l, h.isStep hl (by rw [hlsource, hlsink, hplace]), hlsource⟩

/-- From every router a straight leg of any length leads in every direction, as long as it does not
lead outside. -/
theorem exists_leg {d : Direction} {n : Nat} {i : Nat} (hi : i < t.routers.length)
    (hin : t.IsInside (t.place i + n • d.vector)) :
    ∃ path j, t.IsLeg d i path j ∧ path.length = n ∧ j < t.routers.length ∧
      t.place j = t.place i + n • d.vector := by
  induction n generalizing i with
  | zero => exact ⟨[], i, ⟨rfl, by simp⟩, rfl, hi, by simp⟩
  | succ n ih =>
    obtain ⟨l, hl, rfl⟩ := h.exists_isStep hi ((h.isInside hi).between hin)
    have hnext : t.place l.source + (n + 1) • d.vector = t.place l.sink + n • d.vector := by
      rw [hl.place, succ_nsmul', add_assoc]
    rw [hnext] at hin ⊢
    obtain ⟨path, j, hleg, hlength, hj, hplace⟩ :=
      ih (h.reachable.isSound.sink_lt l hl.mem) hin
    refine ⟨l :: path, j, ⟨⟨rfl, hleg.walk⟩, ?_⟩, by simp [hlength], hj, hplace⟩
    simpa using ⟨hl, hleg.steps⟩

/-- Routers at the same place are the same. -/
lemma eq_of_place {i j : Nat} (hi : i < t.routers.length) (hj : j < t.routers.length)
    (hplace : t.place i = t.place j) : i = j := by
  refine h.eq_of_place_eq hi hj hplace (h.layer_eq_of_same
    (h.compressedAt_eq (List.getElem?_eq_getElem hi))
    (h.compressedAt_eq (List.getElem?_eq_getElem hj)) ?_)
  exact h.single _ (List.getElem_mem hi) _ (List.getElem_mem hj)

end IsFullMesh

/-! ### Two legs -/

/-- A turn between two steps is legal if it does not lead back and the model allows it. -/
lemma IsStep.notMem_illegalTurns {t : Topology} (ht : t.IsSound) {m : TurnModel} {d e : Direction}
    {k l : Link} (hk : t.IsStep d k) (hl : t.IsStep e l) (hback : l.sink ≠ k.source)
    (hturn : d = e ∨ m.allows d e = true) : (k.index, l.index) ∉ t.illegalTurns m := by
  intro hmem
  have hforbids := ((ht.mem_illegalTurns_iff hk.mem hl.mem).1 hmem).2
  rcases hturn with rfl | hturn
  · simp [TurnModel.forbids, hk.direction, hl.direction, hback] at hforbids
  · simp [TurnModel.forbids, hk.direction, hl.direction, hback, hturn] at hforbids

section Legs

variable {t : Topology} {d e : Direction} (hde : d.isHorizontal ≠ e.isHorizontal)
include hde

/-- A step in one of two directions at a right angle leads one further in them. -/
lemma IsStep.height_eq {l : Link} (hl : t.IsStep d l ∨ t.IsStep e l) :
    Direction.height d e (t.place l.sink) = Direction.height d e (t.place l.source) + 1 := by
  rcases hl with hl | hl <;> rw [hl.place] <;> cases d <;> cases e <;>
    simp [Direction.height, Direction.vector, Direction.isHorizontal] at hde ⊢ <;> omega

variable {a b c : Nat} {p q : List Link} (hp : t.IsLeg d a p b) (hq : t.IsLeg e b q c)
include hp hq

/-- Two legs at a right angle are a simple path. -/
lemma IsLeg.isSimplePath : IsSimplePath a (p ++ q) c := by
  have hwalk := isWalk_append.2 ⟨b, hp.walk, hq.walk⟩
  refine ⟨hwalk, hwalk.visits_nodup_of_lt (fun r => Direction.height d e (t.place r))
    fun l hl => ?_⟩
  have hstep := IsStep.height_eq hde ((List.mem_append.1 hl).imp (hp.steps l) (hq.steps l))
  omega

/-- Two legs at a right angle that a turn model allows in this order have no illegal turns. -/
lemma IsLeg.isChain_legal (ht : t.IsSound) {m : TurnModel} (hturn : m.allows d e = true) :
    (p ++ q).IsChain fun k l => (k.index, l.index) ∉ t.illegalTurns m := by
  -- two steps lead higher than one began, so the second never leads back
  have hback : ∀ {k l : Link}, t.IsStep d k ∨ t.IsStep e k → t.IsStep d l ∨ t.IsStep e l →
      k.sink = l.source → l.sink ≠ k.source := by
    intro k l hk hl hkl heq
    have hfirst := IsStep.height_eq hde hk
    have hsecond := IsStep.height_eq hde hl
    rw [heq, ← hkl] at hsecond
    omega
  have hjoin := (isWalk_append.2 ⟨b, hp.walk, hq.walk⟩).isChain_ends
  rw [List.isChain_append] at hjoin ⊢
  refine ⟨hjoin.1.imp_of_mem_imp fun k l hk hl hkl => ?_,
    hjoin.2.1.imp_of_mem_imp fun k l hk hl hkl => ?_, fun k hk l hl => ?_⟩
  · have hsk := hp.steps k hk
    have hsl := hp.steps l hl
    exact hsk.notMem_illegalTurns ht hsl (hback (Or.inl hsk) (Or.inl hsl) hkl) (Or.inl rfl)
  · have hsk := hq.steps k hk
    have hsl := hq.steps l hl
    exact hsk.notMem_illegalTurns ht hsl (hback (Or.inr hsk) (Or.inr hsl) hkl) (Or.inl rfl)
  · have hsk := hp.steps k (List.mem_of_getLast? hk)
    have hsl := hq.steps l (List.mem_of_head? hl)
    exact hsk.notMem_illegalTurns ht hsl
      (hback (Or.inl hsk) (Or.inr hsl) (hjoin.2.2 k hk l hl)) (Or.inr hturn)

end Legs

end Topology

/-- Legs along the row and along the column can be taken in one order or the other. -/
def TurnModel.AllowsCorners (m : TurnModel) : Prop :=
  ∀ d e : Direction, d.isHorizontal = true → e.isHorizontal = false →
    m.allows d e = true ∨ m.allows e d = true

/-- All models that have a name leave a way around every corner. -/
lemma TurnModel.allowsCorners_of_mem {m : TurnModel} (hm : m ∈ all) : m.AllowsCorners := by
  intro d e hd he
  simp only [all, named, List.map_cons, List.map_nil, List.mem_cons, List.not_mem_nil,
    or_false] at hm
  rcases hm with rfl | rfl | rfl | rfl | rfl <;> cases d <;> cases e <;>
    simp_all [Direction.isHorizontal, allows, isPositive]

lemma Direction.exists_horizontal (dx : Int) :
    ∃ d : Direction, d.isHorizontal = true ∧ dx.natAbs • d.vector = (dx, 0) := by
  obtain ⟨n, rfl | rfl⟩ := dx.eq_nat_or_neg
  · exact ⟨.east, rfl, by simp [vector]⟩
  · exact ⟨.west, rfl, by simp [vector]⟩

lemma Direction.exists_vertical (dy : Int) :
    ∃ d : Direction, d.isHorizontal = false ∧ dy.natAbs • d.vector = (0, dy) := by
  obtain ⟨n, rfl | rfl⟩ := dy.eq_nat_or_neg
  · exact ⟨.north, rfl, by simp [vector]⟩
  · exact ⟨.south, rfl, by simp [vector]⟩

namespace Context

variable {c : Context} (h : c.topology.IsFullMesh)
include h

/-- Two legs from a router to another are a legal path if the turn model allows them in this order
and the corner lies inside. -/
lemma isLegalPath_of_legs {a b : Nat} (ha : a < c.topology.routers.length)
    (hb : b < c.topology.routers.length) {d e : Direction}
    (hde : d.isHorizontal ≠ e.isHorizontal) (hturn : c.turnModel.allows d e = true) {n k : Nat}
    (hcorner : c.topology.IsInside (c.topology.place a + n • d.vector))
    (hend : c.topology.place a + n • d.vector + k • e.vector = c.topology.place b) :
    ∃ path, c.IsLegalPath a path b ∧ path.length = n + k := by
  obtain ⟨p, i, hp, hlength, hi, hplace⟩ := h.exists_leg ha hcorner
  rw [← hplace] at hend
  obtain ⟨q, j, hq, hlength', hj, hplace'⟩ := h.exists_leg hi (hend ▸ h.isInside hb)
  obtain rfl := h.eq_of_place hj hb (hplace'.trans hend)
  have hpath := hp.isSimplePath hde hq
  have hsteps : ∀ l ∈ p ++ q, ∃ d, c.topology.IsStep d l := fun l hl =>
    (List.mem_append.1 hl).elim (fun hl => ⟨d, hp.steps l hl⟩) fun hl => ⟨e, hq.steps l hl⟩
  refine ⟨p ++ q, ⟨fun l hl => ?_, hpath, hp.isChain_legal hde hq h.reachable.isSound hturn, ?_⟩,
    by simp [hlength, hlength']⟩
  · obtain ⟨d', hl⟩ := hsteps l hl
    exact hl.mem
  · refine h.makesProgress ha hb hpath.walk.isBalanced fun l hl => ?_
    obtain ⟨d', hl⟩ := hsteps l hl
    exact hl.place_sink

/-- In a full mesh a legal path leads from every router to every other, which is no longer than it
has to be, if the turn model leaves a way around every corner. -/
theorem exists_isLegalPath (hturns : c.turnModel.AllowsCorners) {a b : Nat} (ha : a < c.topology.routers.length)
    (hb : b < c.topology.routers.length) :
    ∃ path, c.IsLegalPath a path b ∧
      path.length = ((c.topology.place b).1 - (c.topology.place a).1).natAbs +
        ((c.topology.place b).2 - (c.topology.place a).2).natAbs := by
  have hina := h.isInside ha
  have hinb := h.isInside hb
  generalize hpa : c.topology.place a = p at hina ⊢
  generalize hpb : c.topology.place b = q at hinb ⊢
  obtain ⟨d, hd, hdx⟩ := Direction.exists_horizontal (q.1 - p.1)
  obtain ⟨e, he, hdy⟩ := Direction.exists_vertical (q.2 - p.2)
  rcases hturns d e hd he with hturn | hturn
  · refine isLegalPath_of_legs h ha hb (by simp [hd, he]) hturn ?_ ?_
    · rw [hpa, hdx]
      exact ⟨by simpa using hinb.1, by simpa using hina.2⟩
    · rw [hpa, hpb, hdx, hdy]
      simp [Prod.ext_iff]
  · rw [Nat.add_comm]
    refine isLegalPath_of_legs h ha hb (by simp [hd, he]) hturn ?_ ?_
    · rw [hpa, hdy]
      exact ⟨by simpa using hina.1, by simpa using hinb.2⟩
    · rw [hpa, hpb, hdx, hdy]
      simp [Prod.ext_iff]

end Context

/-! ### Flows on a square -/

namespace Square

/-- Three blocks on the square, two of them as far apart as can be. -/
def context (m : TurnModel) (flows : Traffic) : Context where
  topology := topology
  flows := flows
  placement := ⟨[(.text "p", .list [.int 0, .int 0]), (.text "q", .list [.int 4, .int 0, .int 0]),
    (.text "r", .list [.int 0, .int 3])]⟩
  turnModel := m

/-- A flow along the first row, and a fast one that has to take a turn into it. -/
def traffic : Traffic :=
  [⟨0, .text "p", .text "q", .int 40, .null, .null, []⟩,
    ⟨1, .text "r", .text "q", .int 30, .int 2, .null, []⟩]

lemma isProper (m : TurnModel) : (context m traffic).IsProper where
  topology := isCharted.reachable
  flows := .add ⟨.text "r", .text "q", .int 30, .int 2, .null, .list []⟩
    (.add ⟨.text "p", .text "q", .int 40, .null, .null, .list []⟩ .empty rfl) rfl

lemma isFullMesh : topology.IsFullMesh where
  toIsCharted := isCharted
  single := by
    simp [topology]
  full := by
    simp [topology]
  linked := by
    intro a b p q hp hq hstep
    have hlinks : ∀ a < 4, ∀ b < 4, ((topology.place b).1 - (topology.place a).1).natAbs +
        ((topology.place b).2 - (topology.place a).2).natAbs = 1 →
          topology.links.any (fun l => l.source == a && l.sink == b) = true := by
      decide
    obtain ⟨r, hr, -⟩ := isCharted.exists_router hp
    obtain ⟨s, hs, -⟩ := isCharted.exists_router hq
    have hany := hlinks a (List.getElem?_eq_some_iff.1 hr).1 b (List.getElem?_eq_some_iff.1 hs).1
    rw [Topology.place_eq hp, Topology.place_eq hq] at hany
    simpa [List.any_eq_true] using hany hstep

end Square

end NocRouting
