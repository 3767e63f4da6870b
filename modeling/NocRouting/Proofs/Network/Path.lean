import Mathlib.Data.List.Chain
import Mathlib.Data.List.Nodup
import Mathlib.Data.List.Perm.Subperm
import NocRouting.Topology.Basic

/-!
# Simple paths

A walk is a list of links each of which leaves the router that the one before it enters.  It is a
simple path if it visits no router twice.

The links of a path, taken without their order, are a unit flow: one of them leaves the source, one
enters the sink, and every router between is left as often as it is entered, once at most.  The
converse fails, as cycles apart from the path are unit flows too.  The main results are

* `IsSimplePath.isUnitFlow`: the links of a simple path are a unit flow;
* `IsUnitFlow.exists_path`: a unit flow contains a simple path;
* `IsUnitFlow.perm`: it is made up of the links of that path if all its links leave routers on it.
-/

namespace NocRouting

/-! ### Walks -/

/-- The links lead from one router to another, one after the other. -/
def IsWalk : Nat → List Link → Nat → Prop
  | a, [], b => a = b
  | a, l :: rest, b => l.source = a ∧ IsWalk l.sink rest b

/-- The routers on the way along some links. -/
def visits (a : Nat) (path : List Link) : List Nat :=
  a :: path.map (·.sink)

section Walk

variable {a b c : Nat} {p q path : List Link} {k l : Link}

@[simp] lemma isWalk_nil : IsWalk a [] b ↔ a = b := Iff.rfl

@[simp] lemma isWalk_cons : IsWalk a (l :: path) b ↔ l.source = a ∧ IsWalk l.sink path b := Iff.rfl

lemma isWalk_append : IsWalk a (p ++ q) c ↔ ∃ b, IsWalk a p b ∧ IsWalk b q c := by
  induction p generalizing a with
  | nil => simp
  | cons l p ih => simp [ih, and_assoc]

/-- The routers that are left, and the last one, are those at the beginning, and those that are
entered. -/
lemma IsWalk.sources_append (h : IsWalk a path b) : path.map (·.source) ++ [b] = visits a path := by
  induction path generalizing a with
  | nil => simp_all [visits]
  | cons l path ih =>
    obtain ⟨rfl, h⟩ := h
    simp [visits, ih h]

lemma IsWalk.end_mem (h : IsWalk a path b) : b ∈ visits a path := by
  rw [← h.sources_append]
  simp

lemma IsWalk.source_mem (h : IsWalk a path b) (hl : l ∈ path) : l.source ∈ visits a path := by
  rw [← h.sources_append]
  exact List.mem_append_left _ (List.mem_map_of_mem hl)

lemma IsWalk.getLast?_visits (h : IsWalk a path b) : (visits a path).getLast? = some b := by
  rw [← h.sources_append, List.getLast?_append]
  rfl

/-- The last link of a walk enters its end. -/
lemma IsWalk.exists_getLast? (h : IsWalk a path b) (hne : path ≠ []) :
    ∃ l, path.getLast? = some l ∧ l.sink = b := by
  obtain rfl | ⟨p, l, rfl⟩ := List.eq_nil_or_concat path
  · exact absurd rfl hne
  · rw [List.concat_eq_append] at h ⊢
    obtain ⟨c, -, -, hl⟩ := isWalk_append.1 h
    exact ⟨l, List.getLast?_concat, hl⟩

/-- Routers visited one after the other are joined by a link of the walk. -/
lemma IsWalk.isChain_visits {R : Nat → Nat → Prop} (h : IsWalk a path b)
    (hR : ∀ l ∈ path, R l.source l.sink) : (visits a path).IsChain R := by
  induction path generalizing a with
  | nil => simp [visits]
  | cons l path ih =>
    obtain ⟨rfl, h⟩ := h
    refine List.isChain_cons_cons.2 ⟨hR l (by simp), ?_⟩
    exact ih h fun k hk => hR k (by simp [hk])

/-- Every link of a walk enters the router that the next one leaves. -/
lemma IsWalk.isChain_ends (h : IsWalk a path b) : path.IsChain fun k l => k.sink = l.source := by
  induction path generalizing a with
  | nil => simp
  | cons k path ih =>
    cases path with
    | nil => simp
    | cons l path => exact List.isChain_cons_cons.2 ⟨h.2.1.symm, ih h.2⟩

/-- Apart from its beginning, a walk visits the routers at the ends of its links. -/
lemma IsWalk.any_touches_iff (h : IsWalk a path b) {r : Nat} (hr : r ≠ a) :
    path.any (fun l => l.source == r || l.sink == r) = true ↔ r ∈ visits a path := by
  simp only [List.any_eq_true, Bool.or_eq_true, beq_iff_eq]
  constructor
  · rintro ⟨l, hl, rfl | rfl⟩
    · exact h.source_mem hl
    · exact List.mem_cons_of_mem _ (List.mem_map_of_mem hl)
  · intro hmem
    obtain ⟨l, hl, hlr⟩ := List.mem_map.1 ((List.mem_cons.1 hmem).resolve_left hr)
    exact ⟨l, hl, Or.inr hlr⟩

/-- A walk does not come back to a router if it does not come back to its beginning and enters no
router by two different links. -/
lemma IsWalk.visits_nodup (h : IsWalk a path b) (ha : a ∉ path.map (·.sink))
    (hsink : ∀ k ∈ path, ∀ l ∈ path, k.sink = l.sink → k = l) : (visits a path).Nodup := by
  induction path generalizing a with
  | nil => simp [visits]
  | cons l path ih =>
    obtain ⟨rfl, h⟩ := h
    have hl : l.sink ∉ path.map (·.sink) := by
      intro hmem
      obtain ⟨k, hk, hkl⟩ := List.mem_map.1 hmem
      obtain rfl := hsink k (by simp [hk]) l (by simp) hkl
      exact ha (h.source_mem hk)
    have hrest := ih h hl fun k hk k' hk' => hsink k (by simp [hk]) k' (by simp [hk'])
    exact List.nodup_cons.2 ⟨ha, hrest⟩

end Walk

/-! ### Simple paths -/

/-- The links lead from one router to another and visit no router twice. -/
structure IsSimplePath (a : Nat) (path : List Link) (b : Nat) : Prop where
  walk : IsWalk a path b
  simple : (visits a path).Nodup

namespace IsSimplePath

variable {a b : Nat} {path : List Link} {k l : Link} (h : IsSimplePath a path b)
include h

lemma sources_nodup : (path.map (·.source) ++ [b]).Nodup := by
  rw [h.walk.sources_append]
  exact h.simple

lemma source_nodup : (path.map (·.source)).Nodup :=
  (List.nodup_append.1 h.sources_nodup).1

lemma sink_nodup : (path.map (·.sink)).Nodup :=
  (List.nodup_cons.1 h.simple).2

lemma nodup : path.Nodup :=
  List.Nodup.of_map _ h.sink_nodup

/-- A path does not come back to its source. -/
lemma source_notMem : a ∉ path.map (·.sink) :=
  (List.nodup_cons.1 h.simple).1

/-- A path does not go on from its sink. -/
lemma sink_notMem : b ∉ path.map (·.source) := fun hb =>
  (List.nodup_append.1 h.sources_nodup).2.2 b hb b (by simp) rfl

/-- A path from a router to itself has no links. -/
lemma eq_nil_iff : path = [] ↔ a = b := by
  constructor
  · rintro rfl
    exact h.walk
  · rintro rfl
    cases path with
    | nil => rfl
    | cons l path => exact absurd (by simp [h.walk.1]) h.sink_notMem

/-- Two links of a path that can follow each other do. -/
lemma exists_append (hk : k ∈ path) (hl : l ∈ path) (hkl : k.sink = l.source) :
    ∃ p q, path = p ++ k :: l :: q := by
  obtain ⟨p, rest, rfl⟩ := List.append_of_mem hk
  obtain ⟨c, -, -, hrest⟩ := isWalk_append.1 h.walk
  cases rest with
  | nil =>
    obtain rfl : k.sink = b := hrest
    exact absurd (hkl ▸ List.mem_map_of_mem hl) h.sink_notMem
  | cons m q =>
    have hm : m = l := List.inj_on_of_nodup_map h.source_nodup (by simp) hl (hrest.1.trans hkl)
    exact ⟨p, q, by rw [hm]⟩

end IsSimplePath

/-! ### Unit flows -/

/-- Links that carry one unit from a source to a sink: they leave the source once and enter the sink
once, do not come back to the source or go on from the sink, and leave every other router as often
as they enter it, once at most. -/
structure IsUnitFlow (a b : Nat) (links : List Link) : Prop where
  out_source : (links.map (·.source)).count a = 1
  in_sink : (links.map (·.sink)).count b = 1
  in_source : a ∉ links.map (·.sink)
  out_sink : b ∉ links.map (·.source)
  passage : ∀ r, r ≠ a → r ≠ b →
    (links.map (·.sink)).count r = (links.map (·.source)).count r ∧
      (links.map (·.sink)).count r ≤ 1

/-- The links of a simple path are a unit flow, in whatever order. -/
theorem IsSimplePath.isUnitFlow {a b : Nat} {path links : List Link} (h : IsSimplePath a path b)
    (hab : a ≠ b) (hperm : links.Perm path) : IsUnitFlow a b links := by
  -- the sources and the sink are the source and the sinks, each once
  have hcount : ∀ r, (path.map (·.source)).count r + [b].count r =
      [a].count r + (path.map (·.sink)).count r := by
    intro r
    rw [← List.count_append, ← List.count_append, h.walk.sources_append]
    rfl
  have hsource : ∀ r, (links.map (·.source)).count r = (path.map (·.source)).count r :=
    fun r => (hperm.map _).count_eq r
  have hsink : ∀ r, (links.map (·.sink)).count r = (path.map (·.sink)).count r :=
    fun r => (hperm.map _).count_eq r
  have ha := List.count_eq_zero.2 h.source_notMem
  have hb := List.count_eq_zero.2 h.sink_notMem
  constructor
  · have := hcount a
    rw [hsource]
    simp_all [List.count_singleton, Ne.symm hab]
  · have := hcount b
    rw [hsink]
    simp_all [List.count_singleton]
  · rw [← List.count_eq_zero, hsink, ha]
  · rw [← List.count_eq_zero, hsource, hb]
  · intro r hra hrb
    have := hcount r
    have hle := List.nodup_iff_count.1 h.sink_nodup r
    rw [hsource, hsink]
    simp_all [List.count_singleton, Ne.symm hra, Ne.symm hrb]

namespace IsUnitFlow

variable {a b : Nat} {links : List Link} (h : IsUnitFlow a b links)
include h

lemma source_nodup : (links.map (·.source)).Nodup := by
  refine List.nodup_iff_count.2 fun r => ?_
  by_cases hra : r = a
  · rw [hra, h.out_source]
  · by_cases hrb : r = b
    · rw [hrb, List.count_eq_zero.2 h.out_sink]
      exact Nat.zero_le 1
    · have := h.passage r hra hrb
      omega

lemma sink_nodup : (links.map (·.sink)).Nodup := by
  refine List.nodup_iff_count.2 fun r => ?_
  by_cases hra : r = a
  · rw [hra, List.count_eq_zero.2 h.in_source]
    exact Nat.zero_le 1
  · by_cases hrb : r = b
    · rw [hrb, h.in_sink]
    · exact (h.passage r hra hrb).2

/-- Every walk of the flow is a simple path. -/
lemma isSimplePath {path : List Link} {r : Nat} (hsub : path ⊆ links) (hw : IsWalk a path r) :
    IsSimplePath a path r := by
  refine ⟨hw, hw.visits_nodup ?_ ?_⟩
  · intro ha
    exact h.in_source (List.map_subset _ hsub ha)
  · intro k hk l hl hkl
    exact List.inj_on_of_nodup_map h.sink_nodup (hsub hk) (hsub hl) hkl

/-- A walk of the flow that does not end at the sink can go on. -/
lemma exists_next {path : List Link} {r : Nat} (hsub : path ⊆ links) (hw : IsWalk a path r)
    (hr : r ≠ b) : ∃ l ∈ links, l.source = r := by
  have hcount : 1 ≤ (links.map (·.source)).count r := by
    by_cases hra : r = a
    · rw [hra, h.out_source]
    · have hmem : r ∈ links.map (·.sink) :=
        List.map_subset _ hsub ((List.mem_cons.1 hw.end_mem).resolve_left hra)
      have hpos := List.one_le_count_iff.2 hmem
      have := h.passage r hra hr
      omega
  exact List.mem_map.1 (List.one_le_count_iff.1 hcount)

/-- A walk of the flow, of a given length unless it arrives at the sink before. -/
lemma exists_walk (n : Nat) :
    ∃ path r, path ⊆ links ∧ IsWalk a path r ∧ (r = b ∨ path.length = n) := by
  induction n with
  | zero => exact ⟨[], a, by simp, rfl, Or.inr rfl⟩
  | succ n ih =>
    obtain ⟨path, r, hsub, hw, hend⟩ := ih
    by_cases hr : r = b
    · exact ⟨path, r, hsub, hw, Or.inl hr⟩
    · obtain ⟨l, hl, hlr⟩ := h.exists_next hsub hw hr
      refine ⟨path ++ [l], l.sink, ?_, ?_, Or.inr ?_⟩
      · simpa using ⟨hsub, hl⟩
      · exact isWalk_append.2 ⟨r, hw, hlr, rfl⟩
      · simpa using hend.resolve_left hr

/-- A unit flow contains a simple path from its source to its sink. -/
theorem exists_path : ∃ path, path ⊆ links ∧ IsSimplePath a path b := by
  -- a walk with more links than there are would have to use one of them twice
  obtain ⟨path, r, hsub, hw, hend⟩ := h.exists_walk (links.length + 1)
  have hpath := h.isSimplePath hsub hw
  have hlen := (hpath.nodup.subperm hsub).length_le
  obtain rfl : r = b := hend.resolve_right (by omega)
  exact ⟨path, hsub, hpath⟩

/-- A unit flow consists of the links of a path if they all leave routers on the path. -/
theorem perm {path : List Link} (hsub : path ⊆ links) (hpath : IsSimplePath a path b)
    (hon : ∀ l ∈ links, l.source ∈ visits a path) : links.Perm path := by
  refine (List.perm_ext_iff_of_nodup (List.Nodup.of_map _ h.source_nodup) hpath.nodup).2 fun l =>
    ⟨fun hl => ?_, fun hl => hsub hl⟩
  have hmem := hon l hl
  rw [← hpath.walk.sources_append, List.mem_append, List.mem_singleton] at hmem
  rcases hmem with hmem | hmem
  · obtain ⟨k, hk, hkl⟩ := List.mem_map.1 hmem
    rwa [← List.inj_on_of_nodup_map h.source_nodup (hsub hk) hl hkl]
  · exact absurd (hmem ▸ List.mem_map_of_mem hl) h.out_sink

end IsUnitFlow

end NocRouting
