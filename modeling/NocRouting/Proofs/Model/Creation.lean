import NocRouting.Proofs.Model.Exactness

/-!
# Creating variables

Postings create variables, some of them while constraints are already posted.  What is created for a
model are the link variables of all flows, a counter for each flow in a hurry, an indicator for each
link, and the variables for the circuits.

* `createdBy` are the variables that some postings create, in order.
* `IsAssembledOn.createdBy_eq` lists them for a model.
* `IsAssembledOn.createdBy_nodup` says that none of them is created twice.
-/

namespace NocRouting

open RoutingModel

/-! ### Postings that create -/

section Postings

variable {ν : Type} {ps qs : List (Posting ν)}

/-- The variables that a posting creates. -/
def Posting.created : Posting ν → List ν
  | .newBool v => [v]
  | .newInt _ _ v => [v]
  | _ => []

/-- The variables that some postings create, in order. -/
def createdBy (ps : List (Posting ν)) : List ν :=
  ps.flatMap (·.created)

@[simp] lemma createdBy_append : createdBy (ps ++ qs) = createdBy ps ++ createdBy qs :=
  List.flatMap_append

@[simp] lemma createdBy_flatMap {α : Type} {as : List α} {f : α → List (Posting ν)} :
    createdBy (as.flatMap f) = as.flatMap fun a => createdBy (f a) :=
  List.flatMap_assoc

@[simp] lemma createdBy_map_newBool {vs : List ν} : createdBy (vs.map .newBool) = vs := by
  rw [createdBy, List.flatMap_map]
  exact List.flatMap_singleton' vs

lemma createdBy_eq_nil (h : ∀ p ∈ ps, p.created = []) : createdBy ps = [] :=
  List.flatMap_eq_nil_iff.2 h

end Postings

/-! ### Families -/

namespace RoutingModel

/-- The variables for the circuit of a flow. -/
def circuitVars (t : Topology) (flow source sink : Nat) : List RoutingVar :=
  ((joins t source sink).flatMap fun j => createdBy (joiningArc flow j).1) ++
    .closing flow :: (routersBetween t source sink).map (.skip flow)

/-- The variables for the path of a flow, which needs none if it has nowhere to go. -/
def pathVars (t : Topology) (f : RoutedFlow) : List RoutingVar :=
  if f.source = f.sink then [] else circuitVars t f.flow.id f.source f.sink

end RoutingModel

section Families

variable {t : Topology} {flow a b : Nat}

lemma createdBy_counters {μ : Measures} {maxOverrun : Value} {flows : List RoutedFlow}
    {ps : List (Posting RoutingVar)} {budgets : List (Nat × Int)}
    (h : μ.counters t maxOverrun flows = ⟨ps, .ok budgets⟩) :
    createdBy ps = budgets.map fun b => .overrun b.1 := by
  obtain ⟨-, rfl⟩ := Measures.counters_eq h
  rw [createdBy_flatMap, List.map_eq_flatMap]
  rfl

lemma createdBy_congestionIndicators {numFlows : Nat} {demands : List Int} {resolution : Value}
    {ps : List (Posting RoutingVar)} {u : Unit}
    (h : congestionIndicators t numFlows demands resolution = ⟨ps, .ok u⟩) :
    createdBy ps = t.links.map fun l => .congested l.index := by
  obtain ⟨rfl, hok⟩ := congestionIndicators_eq h
  rw [createdBy_flatMap, List.map_eq_flatMap]
  refine List.flatMap_congr fun l hl => ?_
  obtain ⟨u, hu⟩ := hok l hl
  obtain ⟨-, beyond, -, hps⟩ := congestionIndicator_eq hu
  rw [hps]
  rfl

lemma createdBy_degrees : createdBy (degrees t flow a b) = [] := by
  refine createdBy_eq_nil fun p hp => ?_
  obtain ⟨c, rfl⟩ := exists_constraint_of_mem_degrees p hp
  rfl

lemma createdBy_continuity {f : RoutedFlow} : createdBy (continuity t f) = pathVars t f := by
  by_cases hends : f.source = f.sink
  · rw [continuity, pathVars, if_pos hends, if_pos hends]
    refine createdBy_eq_nil fun p hp => ?_
    obtain ⟨c, rfl⟩ := exists_constraint_of_mem_unused p hp
    rfl
  · rw [continuity_of_ne hends, createdBy_append, createdBy_degrees, pathVars, if_neg hends]
    have hskips : ((routersBetween t f.source f.sink).map fun r =>
        Posting.newBool (RoutingVar.skip f.flow.id r)) =
        ((routersBetween t f.source f.sink).map (.skip f.flow.id)).map .newBool := by
      rw [List.map_map]
      rfl
    simp only [closedPath, createdBy_append, createdBy_flatMap, hskips, createdBy_map_newBool,
      List.flatMap_map, circuitVars, List.nil_append, List.append_assoc]
    simp [createdBy, Posting.created]

end Families

/-! ### Stages -/

namespace RoutingVar

/-- The flow that a variable is about, if it is about one. -/
def flow? : RoutingVar → Option Nat
  | link f _ | overrun f | arc f _ _ | closing f | skip f _ => some f
  | congested _ => none

/-- The stage of building at which a variable is created. -/
def stage : RoutingVar → Nat
  | link _ _ => 0
  | overrun _ => 1
  | congested _ => 2
  | arc _ _ _ | closing _ | skip _ _ => 3

end RoutingVar

/-! ### No variable twice -/

/-- The variables are different ones, created before a stage of building. -/
structure AreCreatedBefore (stage : Nat) (vs : List RoutingVar) : Prop where
  nodup : vs.Nodup
  stage_lt : ∀ v ∈ vs, v.stage < stage

/-- One stage follows after the other. -/
lemma AreCreatedBefore.append {k : Nat} {vs ws : List RoutingVar} (h : AreCreatedBefore k vs)
    (hws : ws.Nodup) (hstage : ∀ w ∈ ws, w.stage = k) : AreCreatedBefore (k + 1) (vs ++ ws) where
  nodup := List.nodup_append.2 ⟨h.nodup, hws, fun v hv w hw =>
    ne_of_apply_ne RoutingVar.stage (hstage w hw ▸ (h.stage_lt v hv).ne)⟩
  stage_lt := List.forall_mem_append.2 ⟨fun v hv => (h.stage_lt v hv).trans (Nat.lt_succ_self k),
    fun w hw => hstage w hw ▸ Nat.lt_succ_self k⟩

section Distinct

variable {t : Topology} {flow a b : Nat}

/-- A flow has one variable for each link. -/
lemma Topology.IsSound.linkVars_nodup (ht : t.IsSound) : (linkVars flow t.links).Nodup :=
  nodup_map_of_injective (fun _ _ h => (RoutingVar.link.inj h).2) ht.links_nodup

lemma eq_arc_of_mem_joiningArc {j : Link × List Link} {v : RoutingVar}
    (hv : v ∈ createdBy (joiningArc flow j).1) : v = .arc flow j.1.shownSource j.1.shownSink := by
  obtain ⟨k, _ | ⟨l, others⟩⟩ := j
  · cases hv
  · exact List.mem_singleton.1 hv

lemma createdBy_joiningArc_nodup {j : Link × List Link} :
    (createdBy (joiningArc flow j).1).Nodup := by
  obtain ⟨k, _ | ⟨l, others⟩⟩ := j
  · exact List.nodup_nil
  · exact List.nodup_singleton _

/-- The circuit of a flow has one variable for each pair of routers with parallel links, one for
the closing arc, and one for each router that can be left out. -/
lemma Topology.IsSound.circuitVars_nodup (ht : t.IsSound) : (circuitVars t flow a b).Nodup := by
  have hlink : ∀ j ∈ joins t a b, j.1 ∈ t.links := fun j hj =>
    (Topology.mem_usable.1 ((ht.mem_join hj).1 List.mem_cons_self).1).1
  have harcs : ((joins t a b).flatMap fun j => createdBy (joiningArc flow j).1).Nodup := by
    refine nodup_flatMap_of_owner joins_nodup (fun j _ => createdBy_joiningArc_nodup) ?_
    intro j hj k hk v hvj hvk
    -- the name of an arc shows the routers that it joins
    obtain ⟨-, hsource, hsink⟩ := RoutingVar.arc.inj
      ((eq_arc_of_mem_joiningArc hvj).symm.trans (eq_arc_of_mem_joiningArc hvk))
    rw [Link.ends, Link.ends, ← ht.shownSource _ (hlink j hj), ← ht.shownSink _ (hlink j hj),
      ← ht.shownSource _ (hlink k hk), ← ht.shownSink _ (hlink k hk), hsource, hsink]
  have hskips : ((routersBetween t a b).map (RoutingVar.skip flow)).Nodup := by
    refine List.Nodup.map (fun _ _ h => (RoutingVar.skip.inj h).2) ?_
    rw [routersBetween, ht.router_index]
    exact List.nodup_range.filter _
  refine List.nodup_append.2 ⟨harcs, List.nodup_cons.2 ⟨by simp, hskips⟩, ?_⟩
  intro v hv w hw
  obtain ⟨j, -, hv⟩ := List.mem_flatMap.1 hv
  rw [eq_arc_of_mem_joiningArc hv]
  rcases List.mem_cons.1 hw with rfl | hw
  · simp
  · obtain ⟨r, -, rfl⟩ := List.mem_map.1 hw
    simp

lemma mem_circuitVars {v : RoutingVar} (hv : v ∈ circuitVars t flow a b) :
    v.flow? = some flow ∧ v.stage = 3 := by
  rcases List.mem_append.1 hv with hv | hv
  · obtain ⟨j, -, hv⟩ := List.mem_flatMap.1 hv
    rw [eq_arc_of_mem_joiningArc hv]
    exact ⟨rfl, rfl⟩
  · rcases List.mem_cons.1 hv with rfl | hv
    · exact ⟨rfl, rfl⟩
    · obtain ⟨r, -, rfl⟩ := List.mem_map.1 hv
      exact ⟨rfl, rfl⟩

lemma Topology.IsSound.pathVars_nodup (ht : t.IsSound) {f : RoutedFlow} :
    (pathVars t f).Nodup := by
  unfold pathVars
  split
  · exact List.nodup_nil
  · exact ht.circuitVars_nodup

lemma mem_pathVars {f : RoutedFlow} {v : RoutingVar} (hv : v ∈ pathVars t f) :
    v.flow? = some f.flow.id ∧ v.stage = 3 := by
  unfold pathVars at hv
  split at hv
  · cases hv
  · exact mem_circuitVars hv

end Distinct

/-! ### What is created for a model -/

namespace IsAssembledOn

variable {μ : Measures} {c : Context} {resolution maxOverrun : Value}
  {ps : List (Posting RoutingVar)} {m : RoutingModel}
  (h : IsAssembledOn μ c resolution maxOverrun ps m)
include h

/-- The flows of a model are numbered in order. -/
lemma ids_eq (hc : c.IsProper) : m.flows.map (·.flow.id) = List.range m.flows.length := by
  have hmap : m.flows.map (·.flow.id) = (m.flows.map (·.flow)).map (·.id) := by
    rw [List.map_map]
    rfl
  rw [hmap, h.flows_eq, hc.flows.ids, h.length_flows]

/-- What is created for a model. -/
theorem createdBy_eq : createdBy ps =
    m.flows.flatMap (fun f => linkVars f.flow.id c.topology.links) ++
      m.budgets.map (fun b => .overrun b.1) ++
      c.topology.links.map (fun l => .congested l.index) ++
      m.flows.flatMap (pathVars c.topology) := by
  obtain ⟨counters, indicators, hcounters, hindicators, rfl⟩ := h.postings
  have hlegal : createdBy (legalTurns (c.topology.illegalTurns c.turnModel) m.flows) = [] := by
    refine createdBy_eq_nil fun p hp => ?_
    obtain ⟨f, -, hp⟩ := List.mem_flatMap.1 hp
    obtain ⟨turn, -, rfl⟩ := List.mem_map.1 hp
    rfl
  have hprogress : ∀ f, createdBy (RoutingModel.progress c.topology f).postings = [] := by
    intro f
    refine createdBy_eq_nil fun p hp => ?_
    obtain ⟨_, _, _, rfl⟩ := exists_of_mem_progress p hp
    rfl
  have hhints : ∀ f, createdBy (routeHints c.topology f).postings = [] := by
    intro f
    refine createdBy_eq_nil fun p hp => ?_
    obtain ⟨l, -, n, rfl⟩ := exists_of_mem_routeHints p hp
    rfl
  have hobjective : ∀ e (qs : List (Posting RoutingVar)),
      createdBy (.minimize e :: qs) = createdBy qs := fun _ _ => rfl
  have hnone : ∀ flows : List RoutedFlow, flows.flatMap (fun _ => ([] : List RoutingVar)) = [] :=
    fun _ => List.flatMap_eq_nil_iff.2 fun _ _ => rfl
  simp only [linkVariables, createdBy_append, createdBy_flatMap, createdBy_map_newBool,
    createdBy_counters hcounters, createdBy_congestionIndicators hindicators, hlegal,
    createdBy_continuity, hprogress, hobjective, hhints, hnone, List.append_nil]

/-- No variable is created twice. -/
theorem createdBy_nodup (hc : c.IsProper) : (createdBy ps).Nodup := by
  have ht := hc.topology.isSound
  have hids : (m.flows.map (·.flow.id)).Nodup := by
    rw [h.ids_eq hc]
    exact List.nodup_range
  have hlinks : (m.flows.flatMap fun f => linkVars f.flow.id c.topology.links).Nodup := by
    refine nodup_flatMap_of_owner hids (fun f _ => ht.linkVars_nodup) ?_
    intro f _ g _ v hf hg
    obtain ⟨k, -, rfl⟩ := List.mem_map.1 hf
    obtain ⟨l, -, hl⟩ := List.mem_map.1 hg
    exact (RoutingVar.link.inj hl).1.symm
  have hcounters : (m.budgets.map fun b => RoutingVar.overrun b.1).Nodup :=
    nodup_map_of_injective (fun _ _ => RoutingVar.overrun.inj) (h.budgets_nodup hc)
  have hindicators : (c.topology.links.map fun l => RoutingVar.congested l.index).Nodup :=
    nodup_map_of_injective (fun _ _ => RoutingVar.congested.inj) ht.links_nodup
  have hpaths : (m.flows.flatMap (pathVars c.topology)).Nodup := by
    refine nodup_flatMap_of_owner hids (fun f _ => ht.pathVars_nodup) ?_
    intro f _ g _ v hf hg
    exact Option.some.inj ((mem_pathVars hf).1.symm.trans (mem_pathVars hg).1)
  have hfirst : ∀ v ∈ m.flows.flatMap (fun f => linkVars f.flow.id c.topology.links),
      v.stage = 0 := by
    intro v hv
    obtain ⟨f, -, hv⟩ := List.mem_flatMap.1 hv
    obtain ⟨l, -, rfl⟩ := List.mem_map.1 hv
    rfl
  have hlast : ∀ v ∈ m.flows.flatMap (pathVars c.topology), v.stage = 3 := by
    intro v hv
    obtain ⟨f, -, hv⟩ := List.mem_flatMap.1 hv
    exact (mem_pathVars hv).2
  rw [h.createdBy_eq]
  have hnone : AreCreatedBefore 0 [] := ⟨List.nodup_nil, by simp⟩
  have hall := hnone.append hlinks hfirst
    |>.append hcounters (List.forall_mem_map.2 fun _ _ => rfl)
    |>.append hindicators (List.forall_mem_map.2 fun _ _ => rfl)
    |>.append hpaths hlast
  exact hall.nodup

end IsAssembledOn

end NocRouting
