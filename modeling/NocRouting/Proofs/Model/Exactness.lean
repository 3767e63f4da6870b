import NocRouting.Proofs.Model.Assembly
import NocRouting.Proofs.Model.Circuit
import NocRouting.Proofs.Model.Costs
import NocRouting.Search.Engine

/-!
# Models and legal routings

A model admits exactly the legal routings.  An assignment that meets the constraints sends every
flow along a path that it may take; and whatever such paths are chosen, the other variables can be
given values so that all constraints are met.  Congestion and latency exclude nothing.

* `IsAssembledOn.satisfies_iff` says what an assignment has to meet, flow by flow, budget by budget
  and link by link.
* `IsAssembledOn.exists_routing` reads a legal routing off an assignment.
* `IsAssembledOn.satisfies_assignment` gives an assignment for a legal routing.
* `exists_satisfies_iff_permits` puts the two together.

All but the last are about models on any measures.
-/

namespace NocRouting

open RoutingModel

variable {c : Context} {σ : RoutingVar → Int}

/-! ### The constraints on a single flow -/

/-- The assignment meets what is demanded of the links that a flow takes. -/
structure Context.IsRouted (c : Context) (σ : RoutingVar → Int) (g : RoutedFlow) : Prop where
  truth : IsTruthOn c.topology σ g.flow.id
  turns : ∀ i j, (i, j) ∈ c.topology.illegalTurns c.turnModel →
    σ (.link g.flow.id i) = 0 ∨ σ (.link g.flow.id j) = 0
  continuity : Satisfies σ (continuity c.topology g)
  progress : Satisfies σ (progress c.topology g).postings

lemma Topology.MakesProgress.perm {t : Topology} {a b : Nat} {p q : List Link} (hpq : p.Perm q)
    (h : t.MakesProgress a b p) : t.MakesProgress a b q := by
  simpa only [Topology.MakesProgress, hpq.countP_eq] using h

section Flow

variable {g : RoutedFlow} (ht : c.topology.IsSound)
  (hok : (RoutingModel.progress c.topology g).outcome = .ok ())
include ht hok

/-- The links that a flow takes are those of a path that it may take. -/
theorem Context.IsRouted.exists_path (h : c.IsRouted σ g) :
    ∃ path, c.Permits g.source g.sink path ∧ (c.topology.taken σ g.flow.id).Perm path := by
  by_cases hab : g.source = g.sink
  · refine ⟨[], Or.inl ⟨hab, rfl⟩, ?_⟩
    rw [(satisfies_continuity_of_eq hab).1 h.continuity]
  · have hcont := h.continuity
    rw [continuity_of_ne hab, satisfies_append] at hcont
    have hflow := (satisfies_degrees ht h.truth).1 hcont.1
    obtain ⟨path, hpath, hperm⟩ := perm_of_circuit ht h.truth hflow hab hcont.2
    have htaken : ∀ l ∈ path, l ∈ c.topology.links ∧ σ (.link g.flow.id l.index) ≠ 0 :=
      fun l hl => Topology.mem_taken.1 (hperm.mem_iff.2 hl)
    have hsub : path ⊆ c.topology.links := fun l hl => (htaken l hl).1
    refine ⟨path, Or.inr ⟨hab, hsub, hpath, (hpath.isChain_iff ht hsub).2 ?_, ?_⟩, hperm⟩
    · intro k hk l hl hturn
      rcases h.turns _ _ hturn with hzero | hzero
      · exact (htaken k hk).2 hzero
      · exact (htaken l hl).2 hzero
    · exact ((satisfies_progress h.truth hok hab).1 h.progress).perm hperm

/-- A path that a flow may take meets what is demanded, if the variables of its circuit have the
right values. -/
theorem Context.isRouted_of_path {path : List Link} (htruth : IsTruthOn c.topology σ g.flow.id)
    (hpath : c.Permits g.source g.sink path) (hperm : (c.topology.taken σ g.flow.id).Perm path)
    (hclosing : σ (.closing g.flow.id) = 1)
    (hskip : ∀ r ∈ routersBetween c.topology g.source g.sink,
      σ (.skip g.flow.id r) = if r ∈ visits g.source path then 0 else 1)
    (harc : ∀ tail head, σ (.arc g.flow.id tail head) =
      if path.any (fun l => l.source == tail.value && l.sink == head.value) then 1 else 0) :
    c.IsRouted σ g := by
  have hturns : ∀ i j, (i, j) ∈ c.topology.illegalTurns c.turnModel →
      σ (.link g.flow.id i) = 0 ∨ σ (.link g.flow.id j) = 0 := by
    intro i j hturn
    by_contra hboth
    rw [not_or] at hboth
    obtain ⟨k, hk, l, hl, -, -, rfl, rfl⟩ := Topology.mem_illegalTurns.1 hturn
    have hkp := hperm.mem_iff.1 (Topology.mem_taken.2 ⟨hk, hboth.1⟩)
    have hlp := hperm.mem_iff.1 (Topology.mem_taken.2 ⟨hl, hboth.2⟩)
    exact (hpath.simple.isChain_iff ht hpath.subset).1 hpath.legal k hkp l hlp hturn
  rcases hpath with ⟨hab, rfl⟩ | ⟨hab, hpath⟩
  · refine ⟨htruth, hturns, (satisfies_continuity_of_eq hab).2 hperm.eq_nil, ?_⟩
    simp [progress_of_eq hab]
  · have hflow := hpath.simple.isUnitFlow hab hperm
    have harcs : ∀ j ∈ joins c.topology g.source g.sink,
        Satisfies σ (joiningArc g.flow.id j).1 :=
      fun j hj => satisfies_joiningArc_of_path ht hj hperm htruth hpath.simple harc
    refine ⟨htruth, hturns, ?_, (satisfies_progress htruth hok hab).2
      (hpath.progress.perm hperm.symm)⟩
    rw [continuity_of_ne hab, satisfies_append]
    refine ⟨(satisfies_degrees ht htruth).2 hflow,
      satisfies_closedPath_iff.2 ⟨harcs, hclosing, ?_, ?_⟩⟩
    · intro r hr
      rw [hskip r hr]
      split <;> simp
    · exact circuit_holds ht hpath.simple hskip htruth hperm hab harcs hclosing

end Flow

/-! ### The constraints of a model -/

namespace IsAssembledOn

variable {μ : Measures} {ps : List (Posting RoutingVar)} {m : RoutingModel}

section Any

variable {resolution maxOverrun : Value} (h : IsAssembledOn μ c resolution maxOverrun ps m)
include h

lemma isRouted (hσ : Satisfies σ ps) {g : RoutedFlow} (hg : g ∈ m.flows) : c.IsRouted σ g := by
  obtain ⟨counters, indicators, -, -, rfl⟩ := h.postings
  simp only [satisfies_append, satisfies_linkVariables, satisfies_legalTurns,
    satisfies_flatMap] at hσ
  obtain ⟨⟨⟨⟨⟨⟨htruth, -⟩, -⟩, hturns⟩, hcont⟩, hprog⟩, -⟩ := hσ
  exact ⟨htruth g hg, hturns g hg, hcont g hg, hprog g hg⟩

lemma truth (hσ : Satisfies σ ps) {f : Flow} (hf : f ∈ c.flows) :
    IsTruthOn c.topology σ f.id := by
  obtain ⟨g, hg, rfl, -⟩ := exists_right_of_mem h.flows hf
  exact (h.isRouted hσ hg).truth

lemma budgets_eq : m.budgets = c.flows.filterMap fun f => (μ.budget? f).map (f.id, ·) := by
  obtain ⟨counters, -, hcounters, -⟩ := h.postings
  rw [(Measures.counters_eq hcounters).1, ← h.flows_eq, List.filterMap_map]
  rfl

/-- No flow has two budgets. -/
lemma budgets_nodup (hc : c.IsProper) : (m.budgets.map (·.1)).Nodup := by
  have hsub : ∀ flows : List Flow, ((flows.filterMap fun f =>
      (μ.budget? f).map (f.id, ·)).map (·.1)).Sublist (flows.map (·.id)) := by
    intro flows
    induction flows with
    | nil => exact List.Sublist.slnil
    | cons f flows ih =>
      cases hb : μ.budget? f with
      | none => simpa [hb] using ih.cons f.id
      | some budget => simpa [hb] using ih
  rw [h.budgets_eq]
  refine List.Nodup.sublist (hsub c.flows) ?_
  rw [hc.flows.ids]
  exact List.nodup_range

lemma overrunOf_eq (hc : c.IsProper) {b : Nat × Int} (hb : b ∈ m.budgets) (n : Nat) :
    Search.overrunOf m b.1 n = max 0 (n - b.2) := by
  have hfind : m.budgets.find? (·.1 == b.1) = some b := by
    cases hb' : m.budgets.find? (·.1 == b.1) with
    | none => exact absurd (beq_self_eq_true b.1) (List.find?_eq_none.1 hb' b hb)
    | some b' =>
      have hfst : b'.1 = b.1 := by simpa using List.find?_some hb'
      rw [List.inj_on_of_nodup_map (h.budgets_nodup hc) (List.mem_of_find?_eq_some hb') hb hfst]
  simp only [Search.overrunOf, hfind]

end Any

/-- An indicator tells whether the demand routed over a link is more than the resolution. -/
lemma congested_eq {r : Int} {maxOverrun : Value} (h : IsAssembledOn μ c (.int r) maxOverrun ps m)
    (hσ : Satisfies σ ps) {l : Link} (hl : l ∈ c.topology.links) : σ (.congested l.index) =
      if r < (routedOver c.flows.length m.demands l.index).value σ then 1 else 0 := by
  obtain ⟨counters, indicators, -, hindicators, rfl⟩ := h.postings
  simp only [satisfies_append] at hσ
  obtain ⟨⟨⟨⟨⟨⟨-, -⟩, hσ⟩, -⟩, -⟩, -⟩, -⟩ := hσ
  rw [← h.length_flows]
  exact (satisfies_congestionIndicators hindicators).1 hσ l hl

variable {r k : Int} (h : IsAssembledOn μ c (.int r) (.int k) ps m)
include h

/-- What an assignment has to meet: the constraints on each flow, the values of the counters, the
domains of which must not be empty, and those of the indicators. -/
theorem satisfies_iff : Satisfies σ ps ↔ (∀ g ∈ m.flows, c.IsRouted σ g) ∧
    (∀ b ∈ m.budgets, 0 ≤ max k (c.topology.links.length - b.2) ∧
      σ (.overrun b.1) = max 0 ((c.topology.taken σ b.1).length - b.2)) ∧
    ∀ l ∈ c.topology.links, σ (.congested l.index) =
      if r < (routedOver c.flows.length m.demands l.index).value σ then 1 else 0 := by
  obtain ⟨counters, indicators, hcounters, hindicators, rfl⟩ := h.postings
  have hcounters : (∀ g ∈ m.flows, IsTruthOn c.topology σ g.flow.id) → (Satisfies σ counters ↔
      ∀ b ∈ m.budgets, 0 ≤ max k (c.topology.links.length - b.2) ∧
        σ (.overrun b.1) = max 0 ((c.topology.taken σ b.1).length - b.2)) := by
    intro htruth
    obtain ⟨hbudgets, rfl⟩ := Measures.counters_eq_ok hcounters
    rw [satisfies_flatMap]
    refine forall₂_congr fun b hb => satisfies_overrunCounter ?_ (le_max_right _ _)
    rw [hbudgets, List.mem_filterMap] at hb
    obtain ⟨g, hg, hgb⟩ := hb
    obtain ⟨budget, -, rfl⟩ := Option.map_eq_some_iff.1 hgb
    exact htruth g hg
  have hindicators := h.length_flows ▸ satisfies_congestionIndicators (σ := σ) hindicators
  simp only [satisfies_append, satisfies_cons, satisfies_linkVariables, satisfies_legalTurns,
    satisfies_flatMap, hindicators]
  constructor
  · rintro ⟨⟨⟨⟨⟨⟨htruth, hcount⟩, hcongested⟩, hturns⟩, hcont⟩, hprog⟩, -⟩
    exact ⟨fun g hg => ⟨htruth g hg, hturns g hg, hcont g hg, hprog g hg⟩,
      (hcounters htruth).1 hcount, hcongested⟩
  · rintro ⟨hflows, hcount, hcongested⟩
    have htruth := fun g hg => (hflows g hg).truth
    exact ⟨⟨⟨⟨⟨⟨htruth, (hcounters htruth).2 hcount⟩, hcongested⟩,
      fun g hg => (hflows g hg).turns⟩, fun g hg => (hflows g hg).continuity⟩,
      fun g hg => (hflows g hg).progress⟩, rfl, fun g _ => satisfies_routeHints⟩

end IsAssembledOn

lemma IsAssembled.budgets_eq {resolution maxOverrun : Value} {ps : List (Posting RoutingVar)}
    {m : RoutingModel} (h : IsAssembled c resolution maxOverrun ps m) :
    m.budgets = c.flows.filterMap fun f => (c.topology.budget? f).map (f.id, ·) := by
  simpa only [Context.budget?_measures] using IsAssembledOn.budgets_eq h

/-! ### From assignments to routings -/

/-- An assignment that meets a model sends the flows along the paths of a legal routing. -/
theorem IsAssembledOn.exists_routing {μ : Measures} {resolution maxOverrun : Value}
    {ps : List (Posting RoutingVar)} {m : RoutingModel} (hc : c.IsProper)
    (h : IsAssembledOn μ c resolution maxOverrun ps m) (hσ : Satisfies σ ps) :
    ∃ paths, c.IsRouting paths ∧ c.Follows σ paths := by
  have hpaths : ∀ f ∈ c.flows, ∃ path, (∃ a b, c.flowRouters f = .ok (a, b) ∧ c.Permits a b path) ∧
      ∀ l ∈ c.topology.links, (l ∈ path → σ (.link f.id l.index) = 1) ∧
        (l ∉ path → σ (.link f.id l.index) = 0) := by
    intro f hf
    obtain ⟨g, hg, rfl, hends⟩ := exists_right_of_mem h.flows hf
    have hrouted := h.isRouted hσ hg
    obtain ⟨path, hpath, hperm⟩ := hrouted.exists_path hc.topology.isSound (h.progress g hg)
    refine ⟨path, ⟨_, _, hends, hpath⟩, fun l hl => ⟨?_, ?_⟩⟩
    · intro hp
      exact (hrouted.truth l hl).resolve_left (Topology.mem_taken.1 (hperm.mem_iff.2 hp)).2
    · intro hp
      by_contra hne
      exact hp (hperm.mem_iff.1 (Topology.mem_taken.2 ⟨hl, hne⟩))
  obtain ⟨paths, hboth⟩ := exists_forall₂ hpaths
  exact ⟨paths, hboth.imp fun _ _ => And.left, hboth.imp fun _ _ => And.right⟩

/-! ### From routings to assignments -/

section Assignment

variable {m : RoutingModel} {paths : List (List Link)} {r : Int} (hc : c.IsProper)
  (hr : c.IsRouting paths)
include hc hr

/-- The paths of the flows, by number. -/
lemma forall₂_getElem?_of_isRouting : List.Forall₂ (fun f path => paths[f.id]? = some path ∧
    ∃ a b, c.flowRouters f = .ok (a, b) ∧ c.Permits a b path) c.flows paths := by
  refine (forall₂_getElem? hr).imp ?_
  rintro f path ⟨hpath, i, hf, hi⟩
  exact ⟨by rw [hc.flows.id_of_getElem? hf, hi], hpath⟩

lemma follows_assignment : c.Follows (Search.assignment m (.int r) paths) paths := by
  refine (forall₂_getElem?_of_isRouting hc hr).imp ?_
  rintro f path ⟨hf, a, b, -, hpath⟩ l hl
  have hvalue : Search.assignment m (.int r) paths (.link f.id l.index) =
      if path.any (·.index == l.index) then 1 else 0 := by
    simp only [Search.assignment, Search.assignment.pathOf, Search.assignment.truth, hf,
      Option.getD_some]
  rw [hvalue]
  constructor
  · intro hp
    exact if_pos (List.any_eq_true.2 ⟨l, hp, by simp⟩)
  · intro hp
    refine if_neg fun hany => hp ?_
    obtain ⟨k, hk, hkl⟩ := List.any_eq_true.1 hany
    obtain rfl := hc.topology.isSound.link_ext (hpath.subset hk) hl (by simpa using hkl)
    exact hk

/-- The paths of a legal routing meet the model, if the domains of the counters are not empty. -/
theorem IsAssembledOn.satisfies_assignment {μ : Measures} {k : Int}
    {ps : List (Posting RoutingVar)} (h : IsAssembledOn μ c (.int r) (.int k) ps m)
    (hroom : ∀ b ∈ m.budgets, 0 ≤ max k (c.topology.links.length - b.2)) :
    Satisfies (Search.assignment m (.int r) paths) ps := by
  have ht := hc.topology.isSound
  have hfollows := follows_assignment (m := m) (r := r) hc hr
  have hpaths := List.Forall₂.mp (fun _ _ => And.intro) (forall₂_getElem?_of_isRouting hc hr)
    (forall₂_of_follows hc hr hfollows)
  refine h.satisfies_iff.2 ⟨?_, ?_, ?_⟩
  · intro g hg
    obtain ⟨f, hf, rfl, hends⟩ := exists_left_of_mem h.flows hg
    obtain ⟨path, -, ⟨hpath, a, b, hab, hpermits⟩, htruth, hperm, -⟩ :=
      exists_right_of_mem hpaths hf
    obtain ⟨rfl, rfl⟩ : a = g.source ∧ b = g.sink := by simpa [hab] using hends
    refine Context.isRouted_of_path ht (h.progress g hg) htruth hpermits hperm rfl ?_ ?_
    · intro r' hr'
      have hne := (ht.mem_routersBetween.1 hr').2.1
      have hvisits := hpermits.simple.walk.any_touches_iff hne
      simp only [Search.assignment, Search.assignment.pathOf, Search.assignment.truth, hpath,
        Option.getD_some, Bool.not_eq_true']
      by_cases hmem : r' ∈ visits g.source path
      · rw [if_pos hmem, hvisits.2 hmem]
        rfl
      · rw [if_neg hmem, Bool.eq_false_iff.2 (mt hvisits.1 hmem)]
        rfl
    · intro tail head
      simp only [Search.assignment, Search.assignment.pathOf, Search.assignment.truth, hpath,
        Option.getD_some]
  · intro b hb
    refine ⟨hroom b hb, ?_⟩
    have hmem := h.budgets_eq ▸ hb
    obtain ⟨f, hf, hfb⟩ := List.mem_filterMap.1 hmem
    obtain ⟨budget, -, rfl⟩ := Option.map_eq_some_iff.1 hfb
    obtain ⟨path, -, ⟨hpath, -⟩, -, hperm, -⟩ := exists_right_of_mem hpaths hf
    rw [hperm.length_eq, ← h.overrunOf_eq hc hb]
    simp only [Search.assignment, Search.assignment.pathOf, hpath, Option.getD_some]
  · intro l hl
    rw [value_routedOver hc hr hfollows m.demands hl]
    simp only [Search.assignment, Search.assignment.truth, Number.lt_int, decide_eq_true_eq]
    rfl

end Assignment

/-! ### Exactness -/

/-- A choice of links for every flow extends to an assignment that meets the model exactly if every
flow takes the links of a path that it may take. -/
theorem exists_satisfies_iff_permits {r k : Int} {m : RoutingModel} (hc : c.IsProper)
    (hk : 0 ≤ k) (hm : (build c (.int r) (.int k)).outcome = .ok m) (choice : Nat → Nat → Bool) :
    (∃ σ : RoutingVar → Int, (∀ f ∈ c.flows, ∀ l ∈ c.topology.links,
        σ (.link f.id l.index) = if choice f.id l.index then 1 else 0) ∧
      Satisfies σ (build c (.int r) (.int k)).postings) ↔
    ∀ f ∈ c.flows, ∃ a b path, c.flowRouters f = .ok (a, b) ∧ c.Permits a b path ∧
      ∀ l ∈ c.topology.links, choice f.id l.index = true ↔ l ∈ path := by
  have h : IsAssembled c (.int r) (.int k) (build c (.int r) (.int k)).postings m :=
    isAssembled_of_build (by rw [← hm])
  constructor
  · rintro ⟨σ, hchoice, hσ⟩ f hf
    obtain ⟨paths, hr, hfollows⟩ := h.exists_routing hc hσ
    obtain ⟨path, -, ⟨a, b, hab, hpath⟩, hlinks⟩ :=
      exists_right_of_mem (List.Forall₂.mp (fun _ _ => And.intro) hr hfollows) hf
    refine ⟨a, b, path, hab, hpath, fun l hl => ?_⟩
    have hvalue := hchoice f hf l hl
    constructor
    · intro htrue
      by_contra hp
      simp [(hlinks l hl).2 hp, htrue] at hvalue
    · intro hp
      simpa [(hlinks l hl).1 hp] using hvalue
  · intro hflows
    have hpaths : ∀ f ∈ c.flows, ∃ path, (∃ a b, c.flowRouters f = .ok (a, b) ∧
        c.Permits a b path) ∧ ∀ l ∈ c.topology.links, choice f.id l.index = true ↔ l ∈ path := by
      intro f hf
      obtain ⟨a, b, path, hab, hpath, hlinks⟩ := hflows f hf
      exact ⟨path, ⟨a, b, hab, hpath⟩, hlinks⟩
    obtain ⟨paths, hboth⟩ := exists_forall₂ hpaths
    have hr : c.IsRouting paths := hboth.imp fun _ _ => And.left
    have hfollows := follows_assignment (m := m) (r := r) hc hr
    refine ⟨Search.assignment m (.int r) paths, ?_, ?_⟩
    · intro f hf l hl
      obtain ⟨path, -, ⟨-, hlinks⟩, hvalue⟩ :=
        exists_right_of_mem (List.Forall₂.mp (fun _ _ => And.intro) hboth hfollows) hf
      by_cases hp : l ∈ path
      · rw [(hvalue l hl).1 hp, if_pos ((hlinks l hl).2 hp)]
      · rw [(hvalue l hl).2 hp, if_neg (mt (hlinks l hl).1 hp)]
    · exact h.satisfies_assignment hc hr fun b _ => hk.trans (le_max_left _ _)

lemma Corner.exists_model : ∃ m, (build context (.int 128) (.int 20)).outcome = .ok m ∧
    m.demands = [80, 60, 80] :=
  Except.exists_of_toOption_map (by decide)

/-- Two flows take different links up to the corner and the same one from there on. -/
theorem corner_exists_satisfies_iff : Corner.context.IsProper ∧ (0 : Int) ≤ 20 ∧
    ∃ m, (build Corner.context (.int 128) (.int 20)).outcome = .ok m ∧
      ((∃ σ : RoutingVar → Int, (∀ f ∈ Corner.traffic, ∀ l ∈ Corner.topology.links,
          σ (.link f.id l.index) =
            if (f.id, l.index) ∈ [(0, 1), (0, 2), (2, 0), (2, 2)] then 1 else 0) ∧
        Satisfies σ (build Corner.context (.int 128) (.int 20)).postings) ↔
      ∀ f ∈ Corner.traffic, ∃ a b path, Corner.context.flowRouters f = .ok (a, b) ∧
        Corner.context.Permits a b path ∧ ∀ l ∈ Corner.topology.links,
          (f.id, l.index) ∈ [(0, 1), (0, 2), (2, 0), (2, 2)] ↔ l ∈ path) := by
  obtain ⟨m, hm, -⟩ := Corner.exists_model
  have hiff := exists_satisfies_iff_permits Corner.isProper (by decide) hm fun f l =>
    decide ((f, l) ∈ [(0, 1), (0, 2), (2, 0), (2, 2)])
  simp only [decide_eq_true_eq] at hiff
  exact ⟨Corner.isProper, by decide, m, hm, hiff⟩

end NocRouting
