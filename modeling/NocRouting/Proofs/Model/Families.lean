import NocRouting.Model.Build
import NocRouting.Proofs.Model.Draft
import NocRouting.Proofs.Network.Routing

/-!
# What the families of constraints demand

An assignment has every flow take some links of the network.  Each family of constraints, the
circuits apart, comes down to a statement about the links taken, which no longer mentions
postings, literals or expressions:

* `satisfies_overrunCounter`: a counter holds the number of links taken beyond the budget;
* `satisfies_congestionIndicator`: an indicator tells whether the load exceeds the resolution;
* `satisfies_legalTurns`: no flow takes both links of an illegal turn;
* `satisfies_degrees`: the links taken by a flow are a unit flow between its ends;
* `satisfies_progress`: the links taken by a flow make up the displacement between its ends.
-/

namespace NocRouting

open RoutingModel

/-- The links that a flow takes. -/
def Topology.taken (t : Topology) (σ : RoutingVar → Int) (flow : Nat) : List Link :=
  t.links.filter fun l => σ (.link flow l.index) != 0

/-- The assignment gives truth values to the variables of a flow. -/
def IsTruthOn (t : Topology) (σ : RoutingVar → Int) (flow : Nat) : Prop :=
  ∀ l ∈ t.links, σ (.link flow l.index) = 0 ∨ σ (.link flow l.index) = 1

variable {t : Topology} {σ : RoutingVar → Int} {flow : Nat}

lemma Topology.taken_subset : t.taken σ flow ⊆ t.links :=
  List.filter_subset_self _

lemma Topology.mem_taken {l : Link} :
    l ∈ t.taken σ flow ↔ l ∈ t.links ∧ σ (.link flow l.index) ≠ 0 := by
  simp [taken]

lemma Topology.IsSound.taken_nodup (ht : t.IsSound) : (t.taken σ flow).Nodup :=
  (List.Nodup.of_map _ ht.links_nodup).filter _

/-! ### Counting links -/

/-- The number of true variables on some links is the number of those taken. -/
lemma countTrue_linkVars (p : Link → Bool) :
    Literal.countTrue σ ((linkVars flow (t.links.filter p)).map .of) =
      (t.taken σ flow).countP p := by
  simp only [Literal.countTrue, linkVars, List.map_map, List.countP_map, Topology.taken,
    List.countP_filter]
  refine List.countP_congr fun l _ => ?_
  simp [and_comm]

lemma value_sumOf_linkVars_eq_countP {ls : List Link}
    (h : ∀ l ∈ ls, σ (.link flow l.index) = 0 ∨ σ (.link flow l.index) = 1) :
    (sumOf (linkVars flow ls)).value σ =
      (ls.countP fun l => σ (.link flow l.index) != 0 : Nat) := by
  induction ls with
  | nil => simp [sumOf, linkVars, LinearExpr.sum, LinearExpr.value]
  | cons l ls ih =>
    have hl := h l (by simp)
    have hls := ih fun k hk => h k (by simp [hk])
    simp only [sumOf, linkVars, LinearExpr.sum, LinearExpr.value, List.map_cons, List.sum_cons,
      Int.one_mul, Int.add_zero] at hls ⊢
    rw [hls, List.countP_cons]
    rcases hl with hl | hl <;> simp [hl, Int.add_comm]

/-- The sum of the variables on some links is the number of those taken. -/
lemma value_sumOf_linkVars (h : IsTruthOn t σ flow) (p : Link → Bool) :
    (sumOf (linkVars flow (t.links.filter p))).value σ = (t.taken σ flow).countP p := by
  rw [value_sumOf_linkVars_eq_countP fun l hl => h l (List.mem_of_mem_filter hl)]
  simp only [Topology.taken, List.countP_filter]
  congr 1
  refine List.countP_congr fun l _ => ?_
  simp [and_comm]

lemma value_sumOf_links (h : IsTruthOn t σ flow) :
    (sumOf (linkVars flow t.links)).value σ = (t.taken σ flow).length := by
  have := value_sumOf_linkVars h fun _ => true
  simpa using this

lemma count_map_eq_countP (ls : List Link) (f : Link → Nat) (r : Nat) :
    (ls.map f).count r = ls.countP (f · == r) := by
  rw [List.count, List.countP_map]
  rfl

/-! ### Single constraints -/

lemma admits_equals {e : RoutingExpr} {n : Int} :
    (equals e n).admits σ = true ↔ e.value σ = n := by
  simp only [equals, Posting.admits, Constraint.holds, Option.all_none, Bool.not_true,
    Bool.false_or, isBetween_int, decide_eq_true_eq]
  omega

lemma admits_newBool {v : RoutingVar} :
    (Posting.newBool v).admits σ = true ↔ σ v = 0 ∨ σ v = 1 := by
  simp [Posting.admits]

lemma satisfies_unused {vars : List RoutingVar} :
    Satisfies σ (unused vars) ↔ ∀ v ∈ vars, σ v = 0 := by
  simp only [unused, satisfies_map, Posting.admits, Constraint.holds, Literal.countTrue]
  refine forall₂_congr fun v _ => ?_
  by_cases hv : σ v = 0 <;> simp [hv]

lemma admits_exactlyOneOf (p : Link → Bool) :
    (exactlyOneOf (linkVars flow (t.links.filter p))).admits σ = true ↔
      (t.taken σ flow).countP p = 1 := by
  rw [← countTrue_linkVars]
  by_cases hempty : (linkVars flow (t.links.filter p)).isEmpty
  · rw [List.isEmpty_iff] at hempty
    simp [exactlyOneOf, hempty, Posting.admits, Constraint.holds, isBetween_int,
      Literal.countTrue]
  · simp [exactlyOneOf, hempty, Posting.admits, Constraint.holds]

lemma satisfies_atMostOneOf (p : Link → Bool) :
    Satisfies σ (atMostOneOf (linkVars flow (t.links.filter p))) ↔
      (t.taken σ flow).countP p ≤ 1 := by
  rw [← countTrue_linkVars]
  by_cases hempty : (linkVars flow (t.links.filter p)).isEmpty
  · rw [List.isEmpty_iff] at hempty
    simp [atMostOneOf, hempty, Literal.countTrue]
  · simp [atMostOneOf, hempty, Posting.admits, Constraint.holds]

/-! ### Families -/

lemma satisfies_linkVariables {flows : List RoutedFlow} :
    Satisfies σ (linkVariables t flows) ↔ ∀ f ∈ flows, IsTruthOn t σ f.flow.id := by
  simp only [linkVariables, satisfies_flatMap, satisfies_map, linkVars, List.forall_mem_map,
    admits_newBool, IsTruthOn]

/-- A counter with a domain that is wide enough, unless that is empty, holds the number of links
beyond the budget. -/
lemma satisfies_overrunCounter (h : IsTruthOn t σ flow) {greatest budget : Int}
    (hwide : t.links.length - budget ≤ greatest) :
    Satisfies σ (overrunCounter t (.int greatest) flow budget) ↔
      0 ≤ greatest ∧ σ (.overrun flow) = max 0 ((t.taken σ flow).length - budget) := by
  have hle : (t.taken σ flow).length ≤ t.links.length := List.length_filter_le _ _
  simp only [overrunCounter, satisfies_cons, satisfies_nil, Posting.admits, isBetween_int,
    Constraint.holds, List.all_cons, List.any_cons, LinearExpr.value_shift, value_sumOf_links h,
    LinearExpr.value_const, Literal.value_of, decide_eq_true_eq, Bool.and_eq_true,
    Bool.or_eq_true, beq_iff_eq, List.all_nil, List.any_nil, Bool.or_false, and_true]
  omega

lemma greatestOverrun_int (t : Topology) (maxOverrun budget : Int) :
    greatestOverrun t (.int maxOverrun) budget =
      .ok (.int (max maxOverrun (t.links.length - budget))) := by
  simp only [greatestOverrun, Value.asNumber_int]
  show Except.ok _ = _
  congr 1
  split <;> simp_all
  omega

/-- The upper bound of the overrun counter of a flow with a budget. -/
def counterBound (t : Topology) (maxOverrun : Value) (budget : Int) : Value :=
  (greatestOverrun t maxOverrun budget).toOption.getD maxOverrun

/-- The postings for a congestion indicator. -/
lemma congestionIndicator_eq {numFlows : Nat} {demands : List Int} {resolution : Value} {l : Link}
    {ps : List (Posting RoutingVar)} {u : Unit}
    (h : congestionIndicator numFlows demands resolution l = ⟨ps, .ok u⟩) :
    numFlows ≤ demands.length ∧ ∃ beyond, resolution.plus (.int 1) = .ok beyond ∧
      ps = [.newBool (.congested l.index),
        .constrain (.linear (routedOver numFlows demands l.index) none (some resolution)
          (some (Literal.of (.congested l.index)).negated)),
        .constrain (.linear (routedOver numFlows demands l.index) (some beyond) none
          (some (Literal.of (.congested l.index))))] := by
  simp only [congestionIndicator, Draft.bind_eq_ok, Draft.post_eq_ok] at h
  obtain ⟨-, _, _, rfl, h, rfl⟩ := h
  split at h
  · simp [Draft.bind_eq_ok, Draft.fail] at h
  · next hlen =>
    simp only [Draft.bind_eq_ok, Draft.post_eq_ok, Draft.lift_eq_ok] at h
    obtain ⟨-, _, _, rfl, ⟨beyond, _, _, ⟨rfl, hbeyond⟩, rfl, rfl⟩, rfl⟩ := h
    exact ⟨by omega, beyond, hbeyond, rfl⟩

/-- An indicator tells whether the load of its link exceeds the resolution. -/
lemma satisfies_congestionIndicator {numFlows : Nat} {demands : List Int} {resolution : Int}
    {l : Link} {ps : List (Posting RoutingVar)} {u : Unit}
    (h : congestionIndicator numFlows demands (.int resolution) l = ⟨ps, .ok u⟩) :
    numFlows ≤ demands.length ∧ (Satisfies σ ps ↔ σ (.congested l.index) =
      if resolution < (routedOver numFlows demands l.index).value σ then 1 else 0) := by
  obtain ⟨hlen, beyond, hbeyond, rfl⟩ := congestionIndicator_eq h
  obtain rfl : .int (resolution + 1) = beyond := by
    simpa only [Value.plus_int, Except.ok.injEq] using hbeyond
  refine ⟨hlen, ?_⟩
  simp only [satisfies_cons, satisfies_nil, Posting.admits, Constraint.holds, isBetween,
    Option.all_some, Option.all_none, Value.number?_int, Option.any_some, Number.le_int,
    Literal.holds_negated, Literal.holds_of]
  generalize (routedOver numFlows demands l.index).value σ = load
  generalize σ (.congested l.index) = indicator
  by_cases hload : resolution < load
  · have hle : ¬ load ≤ resolution := by omega
    have hge : resolution + 1 ≤ load := by omega
    simp only [hload, hle, hge, if_true]
    by_cases hzero : indicator = 0 <;> simp [hzero]
  · have hle : load ≤ resolution := by omega
    have hge : ¬ resolution + 1 ≤ load := by omega
    simp only [hload, hle, hge, if_false]
    by_cases hzero : indicator = 0 <;> simp [hzero]

/-- Every link has its indicator. -/
lemma congestionIndicators_eq {numFlows : Nat} {demands : List Int} {resolution : Value}
    {ps : List (Posting RoutingVar)} {u : Unit}
    (h : congestionIndicators t numFlows demands resolution = ⟨ps, .ok u⟩) :
    ps = t.links.flatMap (fun l => (congestionIndicator numFlows demands resolution l).postings) ∧
      ∀ l ∈ t.links, ∃ u, congestionIndicator numFlows demands resolution l =
        ⟨(congestionIndicator numFlows demands resolution l).postings, .ok u⟩ := by
  obtain ⟨_, heach⟩ := Draft.discard_eq_ok.1 h
  obtain ⟨hps, hok⟩ := Draft.forEach_eq_ok heach
  refine ⟨hps, fun l hl => ?_⟩
  obtain ⟨u, hu⟩ := hok l hl
  exact ⟨u, by rw [← hu]⟩

lemma satisfies_congestionIndicators {numFlows : Nat} {demands : List Int} {resolution : Int}
    {ps : List (Posting RoutingVar)} {u : Unit}
    (h : congestionIndicators t numFlows demands (.int resolution) = ⟨ps, .ok u⟩) :
    Satisfies σ ps ↔ ∀ l ∈ t.links, σ (.congested l.index) =
      if resolution < (routedOver numFlows demands l.index).value σ then 1 else 0 := by
  obtain ⟨rfl, hok⟩ := congestionIndicators_eq h
  rw [satisfies_flatMap]
  refine forall₂_congr fun l hl => ?_
  obtain ⟨u, hu⟩ := hok l hl
  exact (satisfies_congestionIndicator hu).2

lemma satisfies_legalTurns {turns : List (Nat × Nat)} {flows : List RoutedFlow} :
    Satisfies σ (legalTurns turns flows) ↔ ∀ f ∈ flows, ∀ i j, (i, j) ∈ turns →
      σ (.link f.flow.id i) = 0 ∨ σ (.link f.flow.id j) = 0 := by
  simp only [legalTurns, satisfies_flatMap, satisfies_map, Prod.forall, Posting.admits,
    Constraint.holds, Literal.countTrue]
  refine forall₂_congr fun f _ => forall₃_congr fun i j _ => ?_
  by_cases hi : σ (.link f.flow.id i) = 0 <;> by_cases hj : σ (.link f.flow.id j) = 0 <;>
    simp [hi, hj]

lemma satisfies_passage (h : IsTruthOn t σ flow) (r : Nat) :
    Satisfies σ (passage t flow r) ↔
      ((t.taken σ flow).map (·.sink)).count r = ((t.taken σ flow).map (·.source)).count r ∧
        ((t.taken σ flow).map (·.sink)).count r ≤ 1 := by
  simp only [passage, Topology.incoming, Topology.outgoing, satisfies_append, satisfies_cons,
    satisfies_nil, admits_equals, LinearExpr.value_sub, value_sumOf_linkVars h,
    satisfies_atMostOneOf, count_map_eq_countP, and_true]
  omega

/-- The constraints on the number of links at each router. -/
def degrees (t : Topology) (flow source sink : Nat) : List (Posting RoutingVar) :=
  [exactlyOneOf (linkVars flow (t.outgoing source)),
    exactlyOneOf (linkVars flow (t.incoming sink))] ++
  unused (linkVars flow (t.incoming source)) ++ unused (linkVars flow (t.outgoing sink)) ++
  (routersBetween t source sink).flatMap (passage t flow)

lemma exists_constraint_of_mem_unused {vars : List RoutingVar} :
    ∀ p ∈ unused vars, ∃ c, p = .constrain c := by
  intro p hp
  obtain ⟨v, -, rfl⟩ := List.mem_map.1 hp
  exact ⟨_, rfl⟩

/-- The numbers of links at the routers take no variables of their own. -/
lemma exists_constraint_of_mem_degrees {a b : Nat} :
    ∀ p ∈ degrees t flow a b, ∃ c, p = .constrain c := by
  have hmost : ∀ vars, ∀ p ∈ atMostOneOf vars, ∃ c, p = .constrain c := by
    intro vars p hp
    unfold atMostOneOf at hp
    split at hp
    · cases hp
    · exact ⟨_, List.mem_singleton.1 hp⟩
  have hpassage : ∀ r, ∀ p ∈ passage t flow r, ∃ c, p = .constrain c := by
    intro r
    simp only [passage, List.forall_mem_append, List.forall_mem_singleton]
    exact ⟨⟨⟨_, rfl⟩, hmost _⟩, hmost _⟩
  simp only [degrees, List.forall_mem_append, List.forall_mem_cons]
  refine ⟨⟨⟨⟨⟨_, rfl⟩, ⟨_, rfl⟩, by simp⟩, exists_constraint_of_mem_unused⟩,
    exists_constraint_of_mem_unused⟩, ?_⟩
  intro p hp
  obtain ⟨r, -, hp⟩ := List.mem_flatMap.1 hp
  exact hpassage r p hp

lemma continuity_of_ne {f : RoutedFlow} (h : f.source ≠ f.sink) :
    continuity t f =
      degrees t f.flow.id f.source f.sink ++ closedPath t f.flow.id f.source f.sink := by
  simp [continuity, h, degrees]

lemma satisfies_continuity_of_eq {f : RoutedFlow} (h : f.source = f.sink) :
    Satisfies σ (continuity t f) ↔ t.taken σ f.flow.id = [] := by
  simp [continuity, h, satisfies_unused, linkVars, Topology.taken]

lemma Topology.IsSound.mem_routersBetween (ht : t.IsSound) {a b r : Nat} :
    r ∈ routersBetween t a b ↔ r < t.routers.length ∧ r ≠ a ∧ r ≠ b := by
  simp [routersBetween, ht.router_index]

/-- The degree constraints say that the links taken are a unit flow. -/
theorem satisfies_degrees (ht : t.IsSound) (h : IsTruthOn t σ flow) {a b : Nat} :
    Satisfies σ (degrees t flow a b) ↔ IsUnitFlow a b (t.taken σ flow) := by
  have hunused : ∀ p : Link → Bool,
      Satisfies σ (unused (linkVars flow (t.links.filter p))) ↔
        ∀ l ∈ t.taken σ flow, p l = false := by
    intro p
    simp only [satisfies_unused, linkVars, List.forall_mem_map, List.mem_filter, and_imp,
      Topology.mem_taken]
    refine forall₂_congr fun l _ => ?_
    by_cases hl : σ (.link flow l.index) = 0 <;> simp [hl]
  simp only [degrees, Topology.incoming, Topology.outgoing, satisfies_append, satisfies_cons,
    satisfies_nil, admits_exactlyOneOf, hunused, satisfies_flatMap, satisfies_passage h,
    ht.mem_routersBetween, ← count_map_eq_countP, beq_eq_false_iff_ne, and_true]
  constructor
  · rintro ⟨⟨⟨⟨hout, hin⟩, hsource⟩, hsink⟩, hpassage⟩
    refine ⟨hout, hin, by simpa using hsource, by simpa using hsink, ?_⟩
    intro r hra hrb
    by_cases hr : r < t.routers.length
    · exact hpassage r ⟨hr, hra, hrb⟩
    · -- no link joins a router that the network does not have
      have hs : r ∉ (t.taken σ flow).map (·.source) := by
        rintro hmem
        obtain ⟨l, hl, rfl⟩ := List.mem_map.1 hmem
        exact hr (ht.source_lt l (Topology.taken_subset hl))
      have hk : r ∉ (t.taken σ flow).map (·.sink) := by
        rintro hmem
        obtain ⟨l, hl, rfl⟩ := List.mem_map.1 hmem
        exact hr (ht.sink_lt l (Topology.taken_subset hl))
      rw [List.count_eq_zero.2 hs, List.count_eq_zero.2 hk]
      exact ⟨rfl, Nat.zero_le 1⟩
  · intro hflow
    refine ⟨⟨⟨⟨hflow.out_source, hflow.in_sink⟩, ?_⟩, ?_⟩, ?_⟩
    · simpa using hflow.in_source
    · simpa using hflow.out_sink
    · rintro r ⟨-, hra, hrb⟩
      exact hflow.passage r hra hrb

lemma satisfies_progressAlong (h : IsTruthOn t σ flow) {forwards backwards : Direction}
    {displacement : Int} :
    (progressAlong t flow forwards backwards displacement).admits σ = true ↔
      ((t.taken σ flow).countP (·.direction == some forwards) : Int) -
        (t.taken σ flow).countP (·.direction == some backwards) = displacement := by
  rw [progressAlong, admits_equals, LinearExpr.value_sub, Topology.linksTowards,
    Topology.linksTowards, value_sumOf_linkVars h, value_sumOf_linkVars h]

/-- Where the progress of a flow can be measured, the constraints demand that it is made. -/
lemma satisfies_progress {f : RoutedFlow} (h : IsTruthOn t σ f.flow.id)
    (hok : (progress t f).outcome = .ok ()) (hne : f.source ≠ f.sink) :
    Satisfies σ (progress t f).postings ↔
      t.MakesProgress f.source f.sink (t.taken σ f.flow.id) := by
  obtain ⟨ps, hps⟩ : ∃ ps, progress t f = ⟨ps, .ok ()⟩ := ⟨_, by rw [← hok]⟩
  rw [hps]
  simp only [progress, hne, ne_eq, not_false_eq_true, if_true, Draft.bind_eq_ok,
    Draft.lift_eq_ok, Draft.postAll_eq_ok] at hps
  obtain ⟨p, _, _, ⟨rfl, hp⟩, ⟨q, _, _, ⟨rfl, hq⟩, rfl, rfl⟩, rfl⟩ := hps
  simp [satisfies_progressAlong h, Topology.MakesProgress, hp, hq]

/-- A flow that has nowhere to go makes no progress. -/
lemma progress_of_eq {f : RoutedFlow} (h : f.source = f.sink) :
    (progress t f).postings = [] := by
  simp [progress, h]

/-- The progress of a flow is demanded along the two axes. -/
lemma exists_of_mem_progress {f : RoutedFlow} : ∀ p ∈ (progress t f).postings,
    ∃ forwards backwards n, p = progressAlong t f.flow.id forwards backwards n := by
  unfold progress
  split
  · refine Draft.forall_mem_bind (by simp) fun a => Draft.forall_mem_bind (by simp) fun b => ?_
    intro p hp
    rcases List.mem_pair.1 hp with rfl | rfl
    · exact ⟨_, _, _, rfl⟩
    · exact ⟨_, _, _, rfl⟩
  · simp

/-- Known routes are posted as hints on the links that a flow can take, and as nothing else. -/
lemma exists_of_mem_routeHints {f : RoutedFlow} : ∀ p ∈ (routeHints t f).postings,
    ∃ l ∈ t.links, ∃ n, p = .hint (.link f.flow.id l.index) n := by
  unfold routeHints
  split
  · simp
  · refine Draft.forall_mem_bind (Draft.forall_mem_mapM fun v _ => by simp) fun route => ?_
    refine Draft.forall_mem_bind ?_ fun _ => by simp
    intro p hp
    obtain ⟨l, hl, rfl⟩ := List.mem_map.1 hp
    exact ⟨l, hl, _, rfl⟩

/-- Hints demand nothing. -/
lemma satisfies_routeHints {f : RoutedFlow} : Satisfies σ (routeHints t f).postings := by
  intro p hp
  obtain ⟨l, -, n, rfl⟩ := exists_of_mem_routeHints p hp
  rfl

end NocRouting
