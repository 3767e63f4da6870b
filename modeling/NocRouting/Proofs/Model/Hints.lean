import NocRouting.Proofs.Identity
import NocRouting.Proofs.Lists
import NocRouting.Proofs.Model.Exactness
import NocRouting.Proofs.Model.Outline
import NocRouting.Proofs.Whole

/-!
# Known routes are hints

A flow may come with a name and with a known route.  Neither has a part in the model that is built:
two contexts that differ in nothing else lead to the same postings, but for the hints, and to the
same faults.

* `RoutingModel.outline_anonymous` says that the first part of building does without names and
  routes, family by family.
* `Context.HintsRoutes` says that known routes are given as hints, link by link, and nothing else
  is.
* `known_routes_only_hint` compares two contexts that differ in names and routes.
-/

namespace NocRouting

/-! ### Hints among postings -/

section Postings

variable {ν : Type} {ps : List (Posting ν)}

def Posting.isHint : Posting ν → Bool
  | .hint _ _ => true
  | _ => false

/-- Hints demand nothing. -/
lemma satisfies_filter_not_isHint {σ : ν → Int} :
    Satisfies σ (ps.filter fun p => !p.isHint) ↔ Satisfies σ ps := by
  simp only [Satisfies, List.mem_filter, and_imp]
  refine forall₂_congr fun p _ => ?_
  cases p <;> simp [Posting.isHint, Posting.admits]

/-- Hints set no objective. -/
lemma lastObjective?_filter_not_isHint :
    lastObjective? (ps.filter fun p => !p.isHint) = lastObjective? ps := by
  induction ps using List.reverseRecOn with
  | nil => rfl
  | append_singleton ps p ih =>
    rw [List.filter_append]
    cases p with
    | hint v n =>
      rw [lastObjective?_concat (by simp [Posting.IsAside]), ← ih]
      simp [Posting.isHint]
    | minimize e =>
      have hlast : ∀ qs : List (Posting ν), lastObjective? (qs ++ [.minimize e]) = some e :=
        fun qs => lastObjective?_append (by simp)
      rw [hlast]
      exact hlast _
    | _ =>
      rw [lastObjective?_concat (by simp [Posting.IsAside]), ← ih]
      exact lastObjective?_concat (by simp [Posting.IsAside])

end Postings

namespace RoutingModel

/-- The links on which a flow is given a hint, and what is suggested. -/
def hintsFor (flow : Nat) (ps : List (Posting RoutingVar)) : List (Nat × Int) :=
  ps.filterMap fun
    | .hint (.link f l) n => if f = flow then some (l, n) else none
    | _ => none

end RoutingModel

/-! ### Contexts without names and routes -/

/-- The flow without its name and its known route. -/
def Flow.anonymous (f : Flow) : Flow :=
  { f with name := .null, route := [] }

/-- The context with its flows stripped of their names and known routes. -/
def Context.anonymous (c : Context) : Context :=
  { c with flows := c.flows.map .anonymous }

namespace RoutingModel

def RoutedFlow.anonymous (f : RoutedFlow) : RoutedFlow :=
  { f with flow := f.flow.anonymous }

def Outline.anonymous (o : Outline) : Outline :=
  { o with flows := o.flows.map RoutedFlow.anonymous }

end RoutingModel

namespace RoutingModel

variable {c : Context}

lemma routedFlows_anonymous :
    (c.anonymous.flows.mapM fun f => do
      let (source, sink) ← c.anonymous.flowRouters f
      return RoutedFlow.mk f source sink : RoutingDraft (List RoutedFlow)) =
    (·.map RoutedFlow.anonymous) <$> (c.flows.mapM fun f => do
      let (source, sink) ← c.flowRouters f
      return RoutedFlow.mk f source sink : RoutingDraft (List RoutedFlow)) := by
  show ((c.flows.map Flow.anonymous).mapM fun f => do
      let (source, sink) ← c.flowRouters f
      return RoutedFlow.mk f source sink : RoutingDraft (List RoutedFlow)) = _
  induction c.flows with
  | nil => rfl
  | cons f flows ih =>
    rw [List.map_cons, List.mapM_cons, List.mapM_cons, ih]
    simp only [bind_assoc, pure_bind, map_bind, bind_map_left, map_pure]
    rfl

lemma overrunCounters_anonymous {t : Topology} {maxOverrun : Value} {flows : List RoutedFlow} :
    overrunCounters t maxOverrun (flows.map RoutedFlow.anonymous) =
      overrunCounters t maxOverrun flows := by
  induction flows with
  | nil => rfl
  | cons f flows ih =>
    rw [List.map_cons, overrunCounters, overrunCounters, ih]
    rfl

/-- The first part of building a model does the same for flows without names and routes. -/
theorem outline_anonymous (c : Context) (resolution maxOverrun : Value) :
    outline c.anonymous resolution maxOverrun =
      Outline.anonymous <$> outline c resolution maxOverrun := by
  have hdemands : c.anonymous.flows.map (·.bandwidth) = c.flows.map (·.bandwidth) := by
    simp [Context.anonymous, Flow.anonymous]
  rw [outline, outline, routedFlows_anonymous, hdemands]
  simp only [bind_map_left, map_bind, map_pure, List.length_map, overrunCounters_anonymous,
    linkVariables, legalTurns, List.flatMap_map, Draft.forEach_map]
  rfl

/-! ### Known routes -/

section Routes

variable {t : Topology} {f : RoutedFlow}

/-- The hints for a flow, if its known route is a list of whole numbers. -/
def hintsOf (t : Topology) (f : Flow) : List (Posting RoutingVar) :=
  if f.route = [] then []
  else t.links.map fun l =>
    .hint (.link f.id l.index) (if ∃ v ∈ f.route, v.whole = l.index then 1 else 0)

/-- Whole numbers can be looked for in a known route. -/
lemma mapM_asKey_eq {route : List Value} (h : ∀ v ∈ route, v.IsWhole) :
    (route.mapM (·.asKey) : RoutingDraft (List Value)) = pure route := by
  induction route with
  | nil => rfl
  | cons v route ih =>
    obtain ⟨hv, hroute⟩ := List.forall_mem_cons.1 h
    rw [List.mapM_cons, ih hroute, Value.asKey_eq hv.isKey]
    rfl

lemma routeHints_eq (h : ∀ v ∈ f.flow.route, v.IsWhole) :
    routeHints t f = ⟨hintsOf t f.flow, .ok (!f.flow.route.isEmpty)⟩ := by
  by_cases hempty : f.flow.route = []
  · simp only [routeHints, hintsOf, hempty, if_pos, List.isEmpty_nil]
    rfl
  · have hsame : ∀ l : Link, f.flow.route.any (·.same (.int l.index)) = true ↔
        ∃ v ∈ f.flow.route, v.whole = l.index := by
      intro l
      rw [List.any_eq_true]
      refine exists_congr fun v => and_congr_right fun hv => ?_
      exact (h v hv).same_iff (Value.isWhole_int _)
    have hnonempty : f.flow.route.isEmpty = false := List.isEmpty_eq_false_iff.2 hempty
    rw [routeHints, hintsOf, if_neg hempty, hnonempty, mapM_asKey_eq h, pure_bind,
      Draft.bind_of_ok rfl, if_neg Bool.false_ne_true]
    simp only [hsame, Draft.postings_pure, List.append_nil]
    rfl

/-- Known routes of whole numbers are no obstacle to completing a model. -/
lemma complete_eq {c : Context} {o : Outline}
    (h : ∀ f ∈ o.flows, ∀ v ∈ f.flow.route, v.IsWhole) :
    ∃ m, complete c o =
      ⟨.minimize (objective o.flows.length o.demands o.budgets c.topology.links.length) ::
        o.flows.flatMap fun f => hintsOf c.topology f.flow, .ok m⟩ := by
  have hhints : ∀ flows : List RoutedFlow, (∀ f ∈ flows, ∀ v ∈ f.flow.route, v.IsWhole) →
      ∃ hinted, Draft.forEach (routeHints c.topology) flows =
        ⟨flows.flatMap fun f => hintsOf c.topology f.flow, .ok hinted⟩ := by
    intro flows hflows
    induction flows with
    | nil => exact ⟨[], rfl⟩
    | cons f flows ih =>
      obtain ⟨hf, hrest⟩ := List.forall_mem_cons.1 hflows
      obtain ⟨hinted, hih⟩ := ih hrest
      refine ⟨(!f.flow.route.isEmpty) :: hinted, ?_⟩
      rw [Draft.forEach, routeHints_eq hf, hih, List.flatMap_cons]
      simp [Draft.andThen, Draft.done]
  obtain ⟨hinted, hhinted⟩ := hhints o.flows h
  simp only [complete, hhinted]
  rw [Draft.bind_of_ok rfl, Draft.bind_of_ok rfl, Draft.postings_pure, List.append_nil]
  exact ⟨_, rfl⟩

end Routes

end RoutingModel

/-! ### Two contexts -/

open RoutingModel

namespace Context

/-- Among some postings, every flow with a known route gets one hint for every link, which suggests
the link exactly if it is on the route; nothing else is hinted. -/
structure HintsRoutes (c : Context) (ps : List (Posting RoutingVar)) : Prop where
  /-- The hints for a flow. -/
  flow : ∀ f ∈ c.flows, hintsFor f.id ps =
    if f.route = [] then []
    else c.topology.links.map fun l => (l.index, if ∃ v ∈ f.route, v.whole = l.index then 1 else 0)
  /-- Only links of flows are hinted. -/
  only : ∀ v n, .hint v n ∈ ps → ∃ f ∈ c.flows, ∃ l ∈ c.topology.links, v = .link f.id l.index

variable {c : Context} {resolution maxOverrun : Value}

/-- What is posted for a context with known routes of whole numbers, if a model can be built. -/
lemma build_of_outline {ps : List (Posting RoutingVar)} {o : Outline}
    (h : outline c resolution maxOverrun = ⟨ps, .ok o⟩)
    (hroutes : ∀ f ∈ c.flows, ∀ v ∈ f.route, v.IsWhole) :
    ∃ m, build c resolution maxOverrun =
      ⟨ps ++ .minimize (objective o.flows.length o.demands o.budgets c.topology.links.length) ::
        c.flows.flatMap (hintsOf c.topology), .ok m⟩ := by
  have hflows : o.flows.map (·.flow) = c.flows := by
    simp only [outline, Draft.bind_eq_ok, Draft.pure_eq_ok] at h
    obtain ⟨flows, _, _, hrouted, h, -⟩ := h
    -- the flows stay as they are in what follows
    obtain ⟨_, _, _, -, ⟨_, _, _, -, ⟨_, _, _, -, h, -⟩, -⟩, -⟩ := h
    obtain ⟨_, _, _, -, ⟨_, _, _, -, ⟨_, _, _, -, h, -⟩, -⟩, -⟩ := h
    obtain ⟨_, _, _, -, ⟨-, rfl⟩, -⟩ := h
    have hends := (routedFlows_eq_ok hrouted).2.imp fun f g hfg => hfg.1.symm
    rw [← List.forall₂_map_right_iff (R := (· = ·)), List.forall₂_eq_eq_eq] at hends
    exact hends.symm
  have hwhole : ∀ f ∈ o.flows, ∀ v ∈ f.flow.route, v.IsWhole := by
    intro f hf
    exact hroutes f.flow (hflows ▸ List.mem_map_of_mem hf)
  obtain ⟨m, hm⟩ := complete_eq (c := c) hwhole
  refine ⟨m, ?_⟩
  rw [build_eq, h, Draft.bind_of_ok rfl, hm, ← hflows, List.flatMap_map]

/-- The hints are those of known routes, if flows are told apart by their numbers. -/
lemma hintsRoutes {ps : List (Posting RoutingVar)} {e : RoutingExpr}
    (hids : (c.flows.map (·.id)).Nodup) (hps : ∀ p ∈ ps, p.IsDemand) :
    c.HintsRoutes (ps ++ .minimize e :: c.flows.flatMap (hintsOf c.topology)) := by
  have hnone : ∀ flow, hintsFor flow ps = [] := by
    intro flow
    refine List.filterMap_eq_nil_iff.2 fun p hp => ?_
    have hdemand := hps p hp
    cases p <;> first | rfl | cases hdemand
  have hone : ∀ f g : Flow, hintsFor f.id (hintsOf c.topology g) =
      if g.id = f.id then
        if g.route = [] then []
        else c.topology.links.map fun l =>
          (l.index, if ∃ v ∈ g.route, v.whole = l.index then 1 else 0)
      else [] := by
    intro f g
    unfold hintsOf hintsFor
    by_cases hroute : g.route = []
    · simp [hroute]
    · by_cases hid : g.id = f.id <;> simp [hroute, hid, List.filterMap_map]
  have happend : ∀ flow, hintsFor flow (ps ++ .minimize e :: c.flows.flatMap (hintsOf c.topology)) =
      c.flows.flatMap fun g => hintsFor flow (hintsOf c.topology g) := by
    intro flow
    rw [hintsFor, List.filterMap_append, ← hintsFor, hnone, List.nil_append, List.filterMap_cons,
      List.filterMap_flatMap]
    rfl
  constructor
  · intro f hf
    rw [happend, flatMap_eq_of_mem (List.Nodup.of_map _ hids) hf, hone, if_pos rfl]
    intro g hg hne
    rw [hone, if_neg fun hid => hne (List.inj_on_of_nodup_map hids hg hf hid)]
  · intro v n hmem
    have hhint : .hint v n ∈ c.flows.flatMap (hintsOf c.topology) := by
      rcases List.mem_append.1 hmem with hmem | hmem
      · exact absurd (hps _ hmem) id
      · simpa using hmem
    obtain ⟨f, hf, hmem⟩ := List.mem_flatMap.1 hhint
    unfold hintsOf at hmem
    split at hmem
    · simp at hmem
    · obtain ⟨l, hl, heq⟩ := List.mem_map.1 hmem
      obtain ⟨rfl, -⟩ := Posting.hint.inj heq
      exact ⟨f, hf, l, hl, rfl⟩

lemma filter_hintsOf (ps : List (Posting RoutingVar)) (e : RoutingExpr) :
    ((ps ++ .minimize e :: c.flows.flatMap (hintsOf c.topology)).filter fun p => !p.isHint) =
      (ps.filter fun p => !p.isHint) ++ [.minimize e] := by
  have hnone : (c.flows.flatMap (hintsOf c.topology)).filter (fun p => !p.isHint) = [] := by
    refine List.filter_eq_nil_iff.2 fun p hp => ?_
    obtain ⟨f, -, hp⟩ := List.mem_flatMap.1 hp
    unfold hintsOf at hp
    split at hp
    · simp at hp
    · obtain ⟨l, -, rfl⟩ := List.mem_map.1 hp
      simp [Posting.isHint]
  rw [List.filter_append, List.filter_cons_of_pos rfl, hnone]

end Context

section Pairs

variable {c c' : Context} (hsame : c.anonymous = c'.anonymous)
include hsame

/-- The first parts post the same and end in the same way, but for names and routes. -/
lemma outlines_agree (resolution maxOverrun : Value) :
    (∃ ps fault, outline c resolution maxOverrun = ⟨ps, .error fault⟩ ∧
      outline c' resolution maxOverrun = ⟨ps, .error fault⟩) ∨
    ∃ ps o o', outline c resolution maxOverrun = ⟨ps, .ok o⟩ ∧
      outline c' resolution maxOverrun = ⟨ps, .ok o'⟩ ∧ o.anonymous = o'.anonymous := by
  have hagree : Outline.anonymous <$> outline c resolution maxOverrun =
      Outline.anonymous <$> outline c' resolution maxOverrun := by
    rw [← outline_anonymous, ← outline_anonymous, hsame]
  rw [Draft.map_eq, Draft.map_eq, Draft.mk.injEq] at hagree
  generalize outline c resolution maxOverrun = d at hagree ⊢
  generalize outline c' resolution maxOverrun = d' at hagree ⊢
  obtain ⟨ps, fault | o⟩ := d <;> obtain ⟨ps', fault' | o'⟩ := d' <;> obtain ⟨rfl, hends⟩ := hagree
  · obtain rfl := Except.error.inj hends
    exact Or.inl ⟨ps, fault, rfl, rfl⟩
  · cases hends
  · cases hends
  · exact Or.inr ⟨ps, o, o', rfl, rfl, Except.ok.inj hends⟩

/-- So do the two runs, which end with their own hints if nothing fails. -/
lemma builds_agree (hroutes : ∀ f ∈ c.flows, ∀ v ∈ f.route, v.IsWhole)
    (hroutes' : ∀ f ∈ c'.flows, ∀ v ∈ f.route, v.IsWhole) (resolution maxOverrun : Value) :
    (∃ ps fault, build c resolution maxOverrun = ⟨ps, .error fault⟩ ∧
      build c' resolution maxOverrun = ⟨ps, .error fault⟩) ∨
    ∃ ps e m m', (∀ p ∈ ps, p.IsDemand) ∧
      build c resolution maxOverrun =
        ⟨ps ++ .minimize e :: c.flows.flatMap (hintsOf c.topology), .ok m⟩ ∧
      build c' resolution maxOverrun =
        ⟨ps ++ .minimize e :: c'.flows.flatMap (hintsOf c'.topology), .ok m'⟩ := by
  rcases outlines_agree hsame resolution maxOverrun with ⟨ps, fault, h, h'⟩ |
    ⟨ps, o, o', h, h', ho⟩
  · refine Or.inl ⟨ps, fault, ?_, ?_⟩
    · rw [build_eq, h, Draft.bind_of_error rfl]
    · rw [build_eq, h', Draft.bind_of_error rfl]
  · obtain ⟨m, hm⟩ := Context.build_of_outline h hroutes
    obtain ⟨m', hm'⟩ := Context.build_of_outline h' hroutes'
    have hdemands : ∀ p ∈ ps, p.IsDemand := fun p hp =>
      isDemand_of_mem_outline p (h ▸ hp : p ∈ (outline c resolution maxOverrun).postings)
    -- the objective does not depend on what the outlines differ in
    have hlength : o.flows.length = o'.flows.length := by
      simpa [Outline.anonymous] using congrArg (·.flows.length) ho
    have hobjective : o.demands = o'.demands ∧ o.budgets = o'.budgets :=
      ⟨congrArg (·.demands) ho, congrArg (·.budgets) ho⟩
    have htopology : c.topology = c'.topology := congrArg (·.topology) hsame
    rw [← hlength, ← hobjective.1, ← hobjective.2, ← htopology] at hm'
    exact Or.inr ⟨ps, _, m, m', hdemands, hm, htopology ▸ hm'⟩

end Pairs

/-- Contexts that differ only in the names and the known routes of their flows lead to the same
postings but for the hints, and to the same fault after the same postings if a model cannot be
built.  So assignments satisfy both models or neither, and the objectives are the same.  If models
are built, every flow with a known route gets one hint for each link, which tells whether the link
is on the route. -/
theorem known_routes_only_hint {c c' : Context} (hc : c.flows.Reachable)
    (hsame : c.anonymous = c'.anonymous) (hroutes : ∀ f ∈ c.flows, ∀ v ∈ f.route, v.IsWhole)
    (hroutes' : ∀ f ∈ c'.flows, ∀ v ∈ f.route, v.IsWhole) (resolution maxOverrun : Value) :
    let d := build c resolution maxOverrun
    let d' := build c' resolution maxOverrun
    (d.postings.filter fun p => !p.isHint) = (d'.postings.filter fun p => !p.isHint) ∧
    (∀ fault, d.outcome = .error fault ∨ d'.outcome = .error fault → d = d') ∧
    (∀ σ, Satisfies σ d.postings ↔ Satisfies σ d'.postings) ∧
    lastObjective? d.postings = lastObjective? d'.postings ∧
    ∀ m, d.outcome = .ok m → ∃ m', d'.outcome = .ok m' ∧
      c.HintsRoutes d.postings ∧ c'.HintsRoutes d'.postings := by
  intro d d'
  have hruns := builds_agree hsame hroutes hroutes' resolution maxOverrun
  change (∃ ps fault, d = _ ∧ d' = _) ∨ ∃ ps e m m', _ ∧ d = _ ∧ d' = _ at hruns
  have hids : (c.flows.map (·.id)).Nodup := by
    rw [hc.ids]
    exact List.nodup_range
  have hids' : (c'.flows.map (·.id)).Nodup := by
    have hanonymous : ∀ b : Context, b.flows.map (·.id) = b.anonymous.flows.map (·.id) := by
      intro b
      rw [Context.anonymous, List.map_map]
      rfl
    rwa [hanonymous, ← hsame, ← hanonymous]
  have hfilter : (d.postings.filter fun p => !p.isHint) =
      d'.postings.filter fun p => !p.isHint := by
    rcases hruns with ⟨ps, fault, hd, hd'⟩ | ⟨ps, e, m, m', -, hd, hd'⟩
    · rw [hd, hd']
    · rw [hd, hd', Context.filter_hintsOf, Context.filter_hintsOf]
  refine ⟨hfilter, fun fault hfault => ?_, fun σ => ?_, ?_, fun m hm => ?_⟩
  · rcases hruns with ⟨ps, fault, hd, hd'⟩ | ⟨ps, e, m, m', -, hd, hd'⟩
    · rw [hd, hd']
    · rw [hd, hd'] at hfault
      simp at hfault
  · rw [← satisfies_filter_not_isHint, hfilter, satisfies_filter_not_isHint]
  · rw [← lastObjective?_filter_not_isHint, hfilter, lastObjective?_filter_not_isHint]
  · rcases hruns with ⟨ps, fault, hd, -⟩ | ⟨ps, e, _, m', hps, hd, hd'⟩
    · rw [hd] at hm
      cases hm
    · rw [hd, hd']
      exact ⟨m', rfl, Context.hintsRoutes hids hps, Context.hintsRoutes hids' hps⟩

/-- The flows around a corner with names and known routes.  The route of the first is one that it
can take, that of the last is not even one of links of the network. -/
def Corner.routed : Context :=
  let known : List (Value × List Value) :=
    [(.text "fast", [.int 1, .int 2]), (.null, []), (.int 7, [.int (-1), .bool true, .int 99])]
  { Corner.context with
    flows := (Corner.traffic.zip known).map fun (f, name, route) =>
      { f with name := name, route := route } }

/-- The flows around a corner get the same model with known routes as without. -/
theorem corner_known_routes_only_hint : Corner.traffic.Reachable ∧
    Corner.context.anonymous = Corner.routed.anonymous ∧
    (∀ f ∈ Corner.traffic, ∀ v ∈ f.route, v.IsWhole) ∧
    (∀ f ∈ Corner.routed.flows, ∀ v ∈ f.route, v.IsWhole) ∧
    let d := build Corner.context (.int 128) (.int 20)
    let d' := build Corner.routed (.int 128) (.int 20)
    (∀ σ, Satisfies σ d.postings ↔ Satisfies σ d'.postings) ∧
    lastObjective? d.postings = lastObjective? d'.postings ∧
    (∀ flow ∈ [0, 1, 2], hintsFor flow d.postings = []) ∧
    hintsFor 0 d'.postings = [(0, 0), (1, 1), (2, 1), (3, 0)] ∧
    hintsFor 1 d'.postings = [] ∧
    hintsFor 2 d'.postings = [(0, 0), (1, 1), (2, 0), (3, 0)] := by
  have hbare : ∀ f ∈ Corner.traffic, ∀ v ∈ f.route, v.IsWhole := by
    simp [Corner.traffic]
  have hroutes : ∀ f ∈ Corner.routed.flows, ∀ v ∈ f.route, v.IsWhole := by
    simp only [Corner.routed, Corner.traffic, List.zip_cons_cons, List.map_cons,
      List.forall_mem_cons]
    exact ⟨⟨rfl, rfl, by simp⟩, by simp, ⟨rfl, rfl, rfl, by simp⟩, by simp⟩
  obtain ⟨m, hm, -⟩ := Corner.exists_model
  have hsame : Corner.context.anonymous = Corner.routed.anonymous := rfl
  obtain ⟨-, -, hsatisfies, hobjective, hhints⟩ :=
    known_routes_only_hint Corner.isProper.flows hsame hbare hroutes (.int 128) (.int 20)
  obtain ⟨m', -, hnone, hsome⟩ := hhints m hm
  refine ⟨Corner.isProper.flows, hsame, hbare, hroutes, hsatisfies, hobjective, ?_, ?_, ?_, ?_⟩
  · intro flow hflow
    have hquiet : ∃ f ∈ Corner.traffic, f.id = flow ∧ f.route = [] := by
      revert flow
      decide
    obtain ⟨f, hf, rfl, hempty⟩ := hquiet
    exact (hnone.flow f hf).trans (if_pos hempty)
  · exact (hsome.flow _ (List.mem_of_getElem? (i := 0) rfl)).trans (by decide)
  · exact (hsome.flow _ (List.mem_of_getElem? (i := 1) rfl)).trans (by decide)
  · exact (hsome.flow _ (List.mem_of_getElem? (i := 2) rfl)).trans (by decide)

end NocRouting
