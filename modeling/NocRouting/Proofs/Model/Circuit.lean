import NocRouting.Proofs.Lists
import NocRouting.Proofs.Model.Joins

/-!
# The circuit of a flow

The circuit constraint of a flow closes its path by an arc from the sink back to the source, and
lets routers off the path drop out by loops.  It demands more than the degrees: a cycle apart from
the path would be a second circuit.

* `perm_of_circuit`: if the constraints on the degrees and the circuit of a flow are met, the links
  taken are those of one simple path;
* `satisfies_closedPath`: the links of a simple path meet the circuit, once the variables that
  close it are given their values.
-/

namespace NocRouting

open RoutingModel

/-! ### Following arcs -/

namespace Circuit

variable {ν : Type} {arcs : List (Arc ν)} {u : Int} {n : Nat}

lemma self_mem_walk : u ∈ walk arcs n u := by
  cases n <;> simp [walk]

/-- Arcs do not lead out of a set that no arc leaves. -/
lemma mem_of_mem_walk {S : Int → Prop} (hS : ∀ x ∈ arcs, S x.source → S x.sink) (hu : S u) :
    ∀ v ∈ walk arcs n u, S v := by
  induction n generalizing u with
  | zero => simpa [walk] using hu
  | succ n ih =>
    intro v hv
    rcases List.mem_cons.1 hv with rfl | hv
    · exact hu
    · cases hx : arcs.find? (·.source == u) with
      | none => simp [hx] at hv
      | some x =>
        obtain rfl : x.source = u := by simpa using List.find?_some hx
        rw [hx] at hv
        exact ih (hS x (List.mem_of_find?_eq_some hx) hu) v hv

/-- Where arcs are determined by the node they leave, a walk goes through all nodes of a chain. -/
lemma mem_walk_of_isChain {rest : List Int}
    (hinj : ∀ x ∈ arcs, ∀ y ∈ arcs, x.source = y.source → x = y)
    (hchain : (u :: rest).IsChain fun v w => ∃ x ∈ arcs, x.ends = (v, w))
    (hn : rest.length ≤ n) : ∀ v ∈ u :: rest, v ∈ walk arcs n u := by
  induction rest generalizing u n with
  | nil =>
    intro v hv
    obtain rfl : v = u := by simpa using hv
    exact self_mem_walk
  | cons w rest ih =>
    obtain ⟨⟨x, hx, hends⟩, hrest⟩ := List.isChain_cons_cons.1 hchain
    obtain ⟨hsource, hsink⟩ : x.source = u ∧ x.sink = w := by simpa [Arc.ends] using hends
    obtain ⟨m, rfl⟩ : ∃ m, n = m + 1 := ⟨n - 1, by simp at hn; omega⟩
    have hfind : arcs.find? (·.source == u) = some x := by
      cases hy : arcs.find? (·.source == u) with
      | none => exact absurd hsource (by simpa using List.find?_eq_none.1 hy x hx)
      | some y =>
        have hyu : y.source = u := by simpa using List.find?_some hy
        rw [hinj y (List.mem_of_find?_eq_some hy) x hx (hyu.trans hsource.symm)]
    intro v hv
    rcases List.mem_cons.1 hv with rfl | hv
    · exact self_mem_walk
    · refine List.mem_cons_of_mem _ ?_
      simp only [hfind, hsink]
      exact ih hrest (by simpa using hn) v hv

end Circuit

/-! ### The arcs in use -/

section Used

variable {t : Topology} {σ : RoutingVar → Int} {flow a b : Nat}

/-- The arcs of the circuit of a flow. -/
def circuitArcs (t : Topology) (flow a b : Nat) : List (Arc RoutingVar) :=
  ((joins t a b).map (joiningArc flow)).map (·.2) ++
    [⟨.number b, .number a, .of (.closing flow)⟩] ++
    (routersBetween t a b).map fun r => ⟨.number r, .number r, .of (.skip flow r)⟩

/-- What the constraints on the path of a flow demand. -/
lemma satisfies_closedPath_iff :
    Satisfies σ (closedPath t flow a b) ↔
      (∀ j ∈ joins t a b, Satisfies σ (joiningArc flow j).1) ∧ σ (.closing flow) = 1 ∧
        (∀ r ∈ routersBetween t a b, σ (.skip flow r) = 0 ∨ σ (.skip flow r) = 1) ∧
        (Constraint.circuit (circuitArcs t flow a b)).holds σ = true := by
  simp only [closedPath, circuitArcs, satisfies_append, satisfies_flatMap, List.forall_mem_map,
    satisfies_cons, satisfies_nil, satisfies_map, Posting.admits,
    Constraint.holds, Literal.countTrue, and_true]
  by_cases hclosing : σ (.closing flow) = 0
  · simp [hclosing]
  · simp [hclosing, and_assoc]

/-- The arcs in use that are no loops. -/
def properArcs (t : Topology) (σ : RoutingVar → Int) (flow a b : Nat) : List (Arc RoutingVar) :=
  (Circuit.used σ (circuitArcs t flow a b)).filter fun x => x.source != x.sink

/-- The routers that drop out of the circuit. -/
def skipped (t : Topology) (σ : RoutingVar → Int) (flow a b : Nat) : List Nat :=
  (routersBetween t a b).filter fun r => σ (.skip flow r) != 0

variable (ht : t.IsSound) (h : IsTruthOn t σ flow) (hflow : IsUnitFlow a b (t.taken σ flow))
include ht h hflow

/-- Between routers, the arcs in use are those of the links taken. -/
lemma used_joins_perm (harcs : ∀ j ∈ joins t a b, Satisfies σ (joiningArc flow j).1) :
    ((Circuit.used σ (((joins t a b).map (joiningArc flow)).map (·.2))).map Arc.ends).Perm
      ((t.taken σ flow).map Link.ends) := by
  refine (List.perm_ext_iff_of_nodup ?_ ?_).2 ?_
  · have hends : (((joins t a b).map (joiningArc flow)).map (·.2)).map Arc.ends =
        (joins t a b).map (·.1.ends) := by
      rw [List.map_map, List.map_map]
      exact List.map_congr_left fun j hj => ht.ends_joiningArc hj
    have hsub : (Circuit.used σ (((joins t a b).map (joiningArc flow)).map (·.2))).Sublist
        (((joins t a b).map (joiningArc flow)).map (·.2)) := List.filter_sublist
    exact (hends ▸ joins_nodup (t := t) (a := a) (b := b)).sublist (hsub.map Arc.ends)
  · refine List.Nodup.of_map (fun e => e.1) ?_
    rw [List.map_map]
    have hinj : Function.Injective fun r : Nat => (r : Int) := fun _ _ => Int.ofNat.inj
    have := hflow.source_nodup.map hinj
    rwa [List.map_map] at this
  · intro e
    simp only [Circuit.used, List.mem_map, List.mem_filter]
    constructor
    · rintro ⟨x, ⟨⟨p, ⟨j, hj, rfl⟩, rfl⟩, hx⟩, rfl⟩
      obtain ⟨l, hl, -, hends⟩ := (joiningArc_holds_iff h ht hj (harcs j hj)).1 hx
      exact ⟨l, hl, by rw [hends, ht.ends_joiningArc hj]⟩
    · rintro ⟨l, hl, rfl⟩
      have husable : l ∈ t.usable a b := by
        refine Topology.mem_usable.2 ⟨Topology.taken_subset hl, ?_, ?_⟩
        · rintro rfl
          exact hflow.in_source (List.mem_map_of_mem hl)
        · rintro rfl
          exact hflow.out_sink (List.mem_map_of_mem hl)
      obtain ⟨j, hj, hends⟩ := exists_join husable
      refine ⟨_, ⟨⟨_, ⟨j, hj, rfl⟩, rfl⟩, ?_⟩, by rw [ht.ends_joiningArc hj, hends]⟩
      exact (joiningArc_holds_iff h ht hj (harcs j hj)).2 ⟨l, hl, husable, hends.symm⟩

/-- The arcs in use are those of the links taken, the closing arc, and loops. -/
lemma used_perm (harcs : ∀ j ∈ joins t a b, Satisfies σ (joiningArc flow j).1)
    (hclosing : σ (.closing flow) = 1) :
    ((Circuit.used σ (circuitArcs t flow a b)).map Arc.ends).Perm
      ((t.taken σ flow).map Link.ends ++ [((b : Int), (a : Int))] ++
        (skipped t σ flow a b).map fun r : Nat => ((r : Int), (r : Int))) := by
  have hjoins := used_joins_perm ht h hflow harcs
  have hloops : ((Circuit.used σ ((routersBetween t a b).map fun r : Nat =>
      (⟨.number r, .number r, .of (.skip flow r)⟩ : Arc RoutingVar))).map Arc.ends) =
      (skipped t σ flow a b).map fun r : Nat => ((r : Int), (r : Int)) := by
    simp only [Circuit.used, skipped, List.filter_map, List.map_map, Function.comp_def,
      Literal.holds_of]
    rfl
  have hone : Circuit.used σ [⟨.number b, .number a, .of (.closing flow)⟩] =
      [(⟨.number b, .number a, .of (.closing flow)⟩ : Arc RoutingVar)] := by
    simp [Circuit.used, hclosing]
  simp only [Circuit.used] at hjoins hloops hone
  simp only [Circuit.used, circuitArcs, List.filter_append, List.map_append]
  rw [hloops, hone]
  exact (hjoins.append_right _).append_right _

/-- Loops apart, the arcs in use are those of the links taken and the closing arc. -/
lemma properArcs_perm (harcs : ∀ j ∈ joins t a b, Satisfies σ (joiningArc flow j).1)
    (hclosing : σ (.closing flow) = 1) (hab : a ≠ b) :
    ((properArcs t σ flow a b).map Arc.ends).Perm
      ((t.taken σ flow).map Link.ends ++ [((b : Int), (a : Int))]) := by
  have hperm := (used_perm ht h hflow harcs hclosing).filter fun e => e.1 != e.2
  have hproper : ((Circuit.used σ (circuitArcs t flow a b)).map Arc.ends).filter
      (fun e => e.1 != e.2) = (properArcs t σ flow a b).map Arc.ends := by
    rw [List.filter_map]
    rfl
  have hlinks : ((t.taken σ flow).map Link.ends).filter (fun e => e.1 != e.2) =
      (t.taken σ flow).map Link.ends := by
    refine List.filter_eq_self.2 ?_
    intro e he
    obtain ⟨l, hl, rfl⟩ := List.mem_map.1 he
    simpa [Link.ends, Int.natCast_inj] using ht.source_ne_sink l (Topology.taken_subset hl)
  have hreturn : ((b : Int) != (a : Int)) = true := by
    simpa [Int.natCast_inj] using Ne.symm hab
  rw [hproper, List.filter_append, List.filter_append, hlinks] at hperm
  simpa [hreturn, List.filter_map, Function.comp_def] using hperm

omit h in
/-- The nodes of the circuit are routers. -/
lemma Topology.IsSound.mem_nodes {n : Int} (hn : n ∈ Circuit.nodes (circuitArcs t flow a b)) :
    ∃ r : Nat, r < t.routers.length ∧ n = r := by
  obtain ⟨x, hx, hn⟩ := List.mem_flatMap.1 hn
  have hends : ∃ r s : Nat, r < t.routers.length ∧ s < t.routers.length ∧
      x.ends = ((r : Int), (s : Int)) := by
    simp only [circuitArcs, List.map_map, List.mem_append, List.mem_map, List.mem_singleton,
      Function.comp_apply] at hx
    rcases hx with (⟨j, hj, rfl⟩ | rfl) | ⟨r, hr, rfl⟩
    · have hl := (Topology.mem_usable.1 ((ht.mem_join hj).1 (List.mem_cons_self (a := j.1))).1).1
      exact ⟨_, _, ht.source_lt _ hl, ht.sink_lt _ hl, ht.ends_joiningArc hj⟩
    · obtain ⟨l, hl, hla⟩ := List.mem_map.1 (List.one_le_count_iff.1 hflow.out_source.ge)
      obtain ⟨k, hk, hkb⟩ := List.mem_map.1 (List.one_le_count_iff.1 hflow.in_sink.ge)
      exact ⟨b, a, hkb ▸ ht.sink_lt k (Topology.taken_subset hk),
        hla ▸ ht.source_lt l (Topology.taken_subset hl), rfl⟩
    · have hr := (ht.mem_routersBetween.1 hr).1
      exact ⟨r, r, hr, hr, rfl⟩
  obtain ⟨r, s, hr, hs, hrs⟩ := hends
  obtain ⟨hxr, hxs⟩ := Prod.mk.inj hrs
  rcases List.mem_cons.1 hn with rfl | hn
  · exact ⟨r, hr, hxr⟩
  · exact ⟨s, hs, (List.mem_singleton.1 hn).trans hxs⟩

/-! ### From a circuit to a path -/

/-- If the degrees and the circuit are right, the links taken are those of a simple path. -/
theorem perm_of_circuit (hab : a ≠ b) (hsat : Satisfies σ (closedPath t flow a b)) :
    ∃ path, IsSimplePath a path b ∧ (t.taken σ flow).Perm path := by
  obtain ⟨harcs, hclosing, -, hcircuit⟩ := satisfies_closedPath_iff.1 hsat
  have hproper := properArcs_perm ht h hflow harcs hclosing hab
  obtain ⟨path, hsub, hpath⟩ := hflow.exists_path
  refine ⟨path, hpath, hflow.perm hsub hpath ?_⟩
  intro l hl
  -- the arc of the link is on the circuit, as is the closing arc
  obtain ⟨x, hx, hxl⟩ := List.mem_map.1 (hproper.mem_iff.2 (List.mem_append_left _
    (List.mem_map_of_mem hl)))
  obtain ⟨y, hy, hyc⟩ := List.mem_map.1 (hproper.mem_iff.2 (List.mem_append_right _
    (List.mem_singleton.2 rfl)))
  have hwalk : x.source ∈
      Circuit.walk (properArcs t σ flow a b) (properArcs t σ flow a b).length y.source := by
    simp only [Constraint.holds, Circuit.isSingle, Bool.and_eq_true, List.all_eq_true] at hcircuit
    exact List.contains_iff_mem.1 (hcircuit.2 y hy x hx)
  -- following arcs from the sink, through the closing arc, does not leave the path
  have hstay := Circuit.mem_of_mem_walk (S := fun v => ∃ r ∈ visits a path, v = (r : Int))
    ?_ ?_ x.source hwalk
  · obtain ⟨r, hr, hxr⟩ := hstay
    have hls : (l.source : Int) = x.source := (congrArg Prod.fst hxl).symm
    rwa [Int.ofNat.inj (hls.trans hxr)]
  · rintro z hz ⟨r, hr, hzr⟩
    have hmem := hproper.mem_iff.1 (List.mem_map_of_mem hz)
    rcases List.mem_append.1 hmem with hmem | hmem
    · obtain ⟨k, hk, hkz⟩ := List.mem_map.1 hmem
      obtain ⟨hks, hkk⟩ := Prod.mk.inj hkz
      have hkr : k.source = r := Int.ofNat.inj (hks.trans hzr)
      rw [← hpath.walk.sources_append, List.mem_append, List.mem_singleton] at hr
      rcases hr with hr | rfl
      · obtain ⟨m, hm, hmr⟩ := List.mem_map.1 hr
        obtain rfl := List.inj_on_of_nodup_map hflow.source_nodup (hsub hm) hk
          (hmr.trans hkr.symm)
        exact ⟨m.sink, List.mem_cons_of_mem _ (List.mem_map_of_mem hm), hkk.symm⟩
      · exact absurd (hkr ▸ List.mem_map_of_mem hk) hflow.out_sink
    · obtain ⟨-, hza⟩ := Prod.mk.inj (List.mem_singleton.1 hmem)
      exact ⟨a, List.mem_cons_self, hza⟩
  · exact ⟨b, hpath.walk.end_mem, congrArg Prod.fst hyc⟩

end Used

/-! ### From a path to a circuit -/

section Path

variable {t : Topology} {σ : RoutingVar → Int} {flow a b : Nat} {path : List Link}
  (ht : t.IsSound) (hpath : IsSimplePath a path b)
  (hskip : ∀ r ∈ routersBetween t a b, σ (.skip flow r) = if r ∈ visits a path then 0 else 1)
include ht hpath hskip

/-- No router that drops out is on the path, and none drops out twice. -/
lemma visits_append_skipped_nodup : (visits a path ++ skipped t σ flow a b).Nodup := by
  refine List.nodup_append.2 ⟨hpath.simple, ?_, ?_⟩
  · refine (List.Nodup.filter _ ?_).filter _
    rw [ht.router_index]
    exact List.nodup_range
  · rintro r hr _ hs rfl
    obtain ⟨hbetween, hne⟩ := List.mem_filter.1 hs
    simp [hskip r hbetween, hr] at hne

/-- Every router is on the path or drops out. -/
lemma mem_visits_append_skipped {r : Nat} (hr : r < t.routers.length) :
    r ∈ visits a path ++ skipped t σ flow a b := by
  by_cases hv : r ∈ visits a path
  · exact List.mem_append_left _ hv
  · have hra : r ≠ a := by
      rintro rfl
      exact hv List.mem_cons_self
    have hrb : r ≠ b := by
      rintro rfl
      exact hv hpath.walk.end_mem
    have hbetween : r ∈ routersBetween t a b := ht.mem_routersBetween.2 ⟨hr, hra, hrb⟩
    refine List.mem_append_right _ (List.mem_filter.2 ⟨hbetween, ?_⟩)
    simp [hskip r hbetween, hv]

variable (h : IsTruthOn t σ flow) (hperm : (t.taken σ flow).Perm path) (hab : a ≠ b)
  (harcs : ∀ j ∈ joins t a b, Satisfies σ (joiningArc flow j).1) (hclosing : σ (.closing flow) = 1)
include h hperm hab harcs hclosing

omit hskip in
/-- The arcs in use leave the routers on the path and those that drop out. -/
lemma used_source_perm : ((Circuit.used σ (circuitArcs t flow a b)).map (·.source)).Perm
    ((visits a path ++ skipped t σ flow a b).map Int.ofNat) := by
  have hused := (used_perm ht h (hpath.isUnitFlow hab hperm) harcs hclosing).map Prod.fst
  have hsource := (hperm.map (·.source)).map Int.ofNat
  rw [List.map_map] at hused
  rw [← hpath.walk.sources_append]
  refine hused.trans ?_
  simp only [List.map_append, List.map_map] at hsource ⊢
  exact (hsource.append_right _).append_right _

omit hskip in
/-- The arcs in use enter the same routers. -/
lemma used_sink_perm : ((Circuit.used σ (circuitArcs t flow a b)).map (·.sink)).Perm
    ((visits a path ++ skipped t σ flow a b).map Int.ofNat) := by
  have hused := (used_perm ht h (hpath.isUnitFlow hab hperm) harcs hclosing).map Prod.snd
  have hsink := (hperm.map (·.sink)).map Int.ofNat
  rw [List.map_map] at hused
  refine hused.trans ?_
  simp only [List.map_append, List.map_map, visits, List.map_cons] at hsink ⊢
  refine List.Perm.append_right _ ?_
  exact (hsink.append_right _).trans (List.perm_append_singleton _ _)

/-- The arcs in use lead once into every router and once out of it. -/
lemma countP_used {r : Nat} (hr : r < t.routers.length) :
    (Circuit.used σ (circuitArcs t flow a b)).countP (·.source == (r : Int)) = 1 ∧
      (Circuit.used σ (circuitArcs t flow a b)).countP (·.sink == (r : Int)) = 1 := by
  have hnodup := (visits_append_skipped_nodup ht hpath hskip).map
    (f := Int.ofNat) fun _ _ => Int.ofNat.inj
  have hmem : (r : Int) ∈ (visits a path ++ skipped t σ flow a b).map Int.ofNat :=
    List.mem_map_of_mem (mem_visits_append_skipped ht hpath hskip hr)
  have hone := List.count_eq_one_of_mem hnodup hmem
  constructor
  · rw [← hone, ← (used_source_perm ht hpath h hperm hab harcs hclosing).count_eq, List.count,
      List.countP_map]
    rfl
  · rw [← hone, ← (used_sink_perm ht hpath h hperm hab harcs hclosing).count_eq, List.count,
      List.countP_map]
    rfl

/-- Following the arcs of a path, from any of its routers on, leads to all of them. -/
lemma mem_walk_properArcs {r s : Nat} (hr : r ∈ visits a path) (hs : s ∈ visits a path) :
    (s : Int) ∈ Circuit.walk (properArcs t σ flow a b) (properArcs t σ flow a b).length r := by
  have hflow := hpath.isUnitFlow hab hperm
  have hproper := properArcs_perm ht h hflow harcs hclosing hab
  have hlength := hproper.length_eq
  have hends : ∀ e : Int × Int, (∃ x ∈ properArcs t σ flow a b, x.ends = e) ↔
      (∃ l ∈ path, l.ends = e) ∨ e = ((b : Int), (a : Int)) := by
    intro e
    rw [← List.mem_map, hproper.mem_iff, List.mem_append, List.mem_singleton,
      (hperm.map Link.ends).mem_iff, List.mem_map]
  -- the routers on the path, from the given one on and then from the beginning
  obtain ⟨before, behind, hsplit⟩ := List.append_of_mem hr
  let R (v w : Nat) : Prop := ∃ x ∈ properArcs t σ flow a b, x.ends = ((v : Int), (w : Int))
  have hvisits : (before ++ r :: behind).IsChain R :=
    hsplit ▸ hpath.walk.isChain_visits fun l hl => (hends _).2 (Or.inl ⟨l, hl, rfl⟩)
  have hturned : (r :: behind ++ before).IsChain R := by
    refine isChain_rotate hvisits fun v hv w hw => ?_
    rw [← hsplit] at hv hw
    obtain rfl : b = v := by simpa [hpath.walk.getLast?_visits] using hv
    obtain rfl : a = w := by simpa [visits] using hw
    exact (hends _).2 (Or.inr rfl)
  have hchain : ((r :: behind ++ before).map Int.ofNat).IsChain
      fun v w => ∃ x ∈ properArcs t σ flow a b, x.ends = (v, w) :=
    (List.isChain_map Int.ofNat).2 hturned
  refine Circuit.mem_walk_of_isChain ?_ hchain ?_ _ ?_
  · intro x hx y hy hxy
    have hnodup := (used_source_perm ht hpath h hperm hab harcs hclosing).nodup_iff.2
      ((visits_append_skipped_nodup ht hpath hskip).map fun _ _ => Int.ofNat.inj)
    exact List.inj_on_of_nodup_map hnodup (List.mem_of_mem_filter hx) (List.mem_of_mem_filter hy)
      hxy
  · have hcount := congrArg List.length hsplit
    have htaken := hperm.length_eq
    simp [visits] at hlength hcount ⊢
    omega
  · rw [hsplit] at hs
    have hmem : s ∈ r :: (behind ++ before) := by
      simp only [List.mem_append, List.mem_cons] at hs ⊢
      tauto
    exact List.mem_map_of_mem (f := Int.ofNat) hmem

/-- The links of a simple path meet the circuit. -/
theorem circuit_holds : (Constraint.circuit (circuitArcs t flow a b)).holds σ = true := by
  have hflow := hpath.isUnitFlow hab hperm
  have hproper := properArcs_perm ht h hflow harcs hclosing hab
  have hleft : ∀ x ∈ properArcs t σ flow a b, ∃ r ∈ visits a path, x.source = (r : Int) := by
    intro x hx
    have hmem := (hproper.mem_iff.1 (List.mem_map_of_mem hx))
    rw [List.mem_append, (hperm.map Link.ends).mem_iff, List.mem_map, List.mem_singleton] at hmem
    rcases hmem with ⟨l, hl, hlx⟩ | hx
    · exact ⟨l.source, hpath.walk.source_mem hl, (congrArg Prod.fst hlx).symm⟩
    · exact ⟨b, hpath.walk.end_mem, congrArg Prod.fst hx⟩
  simp only [Constraint.holds, Circuit.isSingle, Bool.and_eq_true, List.all_eq_true, beq_iff_eq,
    List.contains_iff_mem]
  constructor
  · intro n hn
    obtain ⟨r, hr, rfl⟩ := ht.mem_nodes hflow hn
    exact countP_used ht hpath hskip h hperm hab harcs hclosing hr
  · intro x hx y hy
    obtain ⟨r, hr, hxr⟩ := hleft x hx
    obtain ⟨s, hs, hys⟩ := hleft y hy
    rw [hxr, hys]
    exact mem_walk_properArcs ht hpath hskip h hperm hab harcs hclosing hr hs

end Path

end NocRouting
