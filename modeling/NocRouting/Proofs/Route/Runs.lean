import NocRouting.Proofs.Outcome
import NocRouting.Route

/-!
# How a run goes

A run poses the model to an engine, has it searched, and reads the routes off the answer; then it
may pose the refinement and have that searched too.  It can end at any of these steps.

`Route.Goes` lists the ways in which a run can go, with all that was posted and with what came of
it, for every engine, however it behaves.  `Route.goes` says that there are no others, so that
statements on runs need only look at these cases.
-/

namespace NocRouting

/-! ### Postings -/

namespace Engine

variable {ν : Type} {e : Engine ν} {ps made : List (Posting ν)} {fault : Fault}

/-- If no posting is refused, all of them are made. -/
lemma eq_of_take_eq_ok (h : e.take ps = (made, .ok ())) : made = ps := by
  induction ps generalizing made with
  | nil => simpa [take, eq_comm] using h
  | cons p ps ih =>
    rw [take] at h
    cases hp : e.accepts p with
    | error f => simp [hp] at h
    | ok u =>
      simp only [hp, Prod.mk.injEq] at h
      obtain ⟨rfl, hrest⟩ := h
      exact congrArg (p :: ·) (ih (Prod.ext rfl hrest))

/-- If postings are not all made, the engine refused one of them. -/
lemma exists_of_take_eq_error (h : e.take ps = (made, .error fault)) :
    ∃ p ∈ ps, e.accepts p = .error fault := by
  induction ps generalizing made with
  | nil => simp [take] at h
  | cons p ps ih =>
    rw [take] at h
    cases hp : e.accepts p with
    | error f =>
      simp only [hp, Prod.mk.injEq, Except.error.injEq] at h
      exact ⟨p, by simp, by rw [hp, h.2]⟩
    | ok u =>
      simp only [hp, Prod.mk.injEq] at h
      obtain ⟨q, hq, hqf⟩ := ih (Prod.ext rfl h.2)
      exact ⟨q, by simp [hq], hqf⟩

/-- An engine that takes everything refuses nothing. -/
lemma take_ne_error (h : ∀ p, e.accepts p = .ok ()) : e.take ps ≠ (made, .error fault) := by
  simp [take_of_accepts h]

/-- The postings made are the first ones. -/
lemma isPrefix_of_take_eq {taken : Except Fault Unit} (h : e.take ps = (made, taken)) :
    made <+: ps := by
  induction ps generalizing made taken with
  | nil =>
    obtain rfl : [] = made := congrArg Prod.fst h
    exact List.prefix_rfl
  | cons p ps ih =>
    rw [take] at h
    cases hp : e.accepts p with
    | error f =>
      simp only [hp, Prod.mk.injEq] at h
      obtain ⟨rfl, -⟩ := h
      exact List.nil_prefix
    | ok u =>
      simp only [hp, Prod.mk.injEq] at h
      obtain ⟨rfl, -⟩ := h
      exact (List.prefix_cons_inj p).2 (ih rfl)

end Engine

/-! ### Stages that tell the engine nothing -/

namespace Stage

variable {α β : Type} {s : Stage α} {f : α → Stage β} {a : α} {fault : Fault}

lemma postings_after (steps : List RouteStep) (s : Stage α) :
    (s.after steps).postings = steps.filterMap RouteStep.posting? ++ s.postings :=
  List.filterMap_append

lemma postings_bind_of_ok (h : s.outcome = .ok a) (f : α → Stage β) :
    (s >>= f).postings = s.postings ++ (f a).postings := by
  rw [bind_of_ok h, postings_after]
  rfl

lemma postings_bind_of_error (h : s.outcome = .error fault) (f : α → Stage β) :
    (s >>= f).postings = s.postings := by
  rw [bind_of_error h]
  rfl

/-- The stage tells the engine nothing. -/
def IsSilent (s : Stage α) : Prop :=
  s.postings = []

lemma isSilent_pure (a : α) : (pure a : Stage α).IsSilent := rfl

lemma isSilent_lift (x : Except Fault α) : (liftM x : Stage α).IsSilent := rfl

lemma isSilent_read (a : Answer RoutingVar) (v : RoutingVar) : (read a v).IsSilent := rfl

lemma isSilent_readTruth (a : Answer RoutingVar) (v : RoutingVar) : (readTruth a v).IsSilent := rfl

lemma IsSilent.bind (hs : s.IsSilent) (hf : ∀ a, (f a).IsSilent) : (s >>= f).IsSilent := by
  cases h : s.outcome with
  | ok a => rw [IsSilent, postings_bind_of_ok h, hs, hf a, List.nil_append]
  | error fault => rw [IsSilent, postings_bind_of_error h, hs]

lemma IsSilent.forEach {as : List α} (hf : ∀ a, (f a).IsSilent) : (forEach f as).IsSilent := by
  induction as with
  | nil => rfl
  | cons a as ih => exact (hf a).bind fun b => ih.bind fun bs => rfl

lemma isSilent_noteAll (ns : List LogEntry) : (noteAll ns).IsSilent := by
  simp [IsSilent, postings, noteAll, RouteStep.posting?]

@[simp] lemma postings_post (e : Engine RoutingVar) (ps : List (Posting RoutingVar)) :
    (post e ps).postings = (e.take ps).1 := by
  simp [postings, post, RouteStep.posting?, Function.comp_def]

/-- If posting comes to its end, nothing was refused. -/
lemma take_eq_of_post {e : Engine RoutingVar} {ps : List (Posting RoutingVar)}
    (h : (post e ps).outcome = .ok ()) : e.take ps = (ps, .ok ()) :=
  Prod.ext (Engine.eq_of_take_eq_ok (Prod.ext rfl h)) h

lemma postings_post_of_ok {e : Engine RoutingVar} {ps : List (Posting RoutingVar)}
    (h : (post e ps).outcome = .ok ()) : (post e ps).postings = ps := by
  rw [postings_post, take_eq_of_post h]

end Stage

/-! ### What is read -/

namespace Route

open Stage (IsSilent)

variable {t : Topology} {m : RoutingModel}

/-- The links that a flow takes in a solution. -/
def selected (t : Topology) (a : Answer RoutingVar) (flow : Nat) : List Value :=
  (t.links.filter fun l => a.isTrue (.link flow l.index)).map fun l => .int l.index

/-- The number of congested links in a solution. -/
def congestedOf (m : RoutingModel) (a : Answer RoutingVar) : Int :=
  (List.range m.numLinks).countP fun l => a.isTrue (.congested l)

/-- What is posted before the second search, in terms of the first solution: the number of congested
links is that of the solution, and the hints are its links. -/
def refinement (m : RoutingModel) (a : Answer RoutingVar) (overrun : Value) :
    List (Posting RoutingVar) :=
  limits m overrun (congestedOf m a)
    ((allLinkVars m).map fun v => (v, if a.isTrue v then 1 else 0))

/-- The limits, a hint for every flow and link, and the bandwidth. -/
lemma refinement_eq (m : RoutingModel) (a : Answer RoutingVar) (overrun : Value) :
    refinement m a overrun =
      [.constrain (.linear (RoutingModel.totalOverrun m.budgets) none (some overrun) none),
        .constrain (.linear (RoutingModel.totalCongested m.numLinks) none
          (some (.int (congestedOf m a))) none),
        .clearHints] ++
      (allLinkVars m).map (fun v => .hint v (if a.isTrue v then 1 else 0)) ++
      [.minimize (RoutingModel.aggregateBandwidth m.flows.length m.demands m.numLinks)] := by
  rw [refinement, limits, List.map_map]
  rfl

lemma outcome_readSelected (a : Answer RoutingVar) (flow : Nat) :
    (readSelected t a flow).outcome = .ok (selected t a flow) := by
  rw [readSelected, Stage.outcome_bind,
    Stage.outcome_forEach_of_ok (g := fun l => (l, a.isTrue (.link flow l.index))) fun _ => rfl]
  show Except.ok (((t.links.map _).filter _).map _) = _
  rw [List.filter_map, List.map_map]
  rfl

lemma outcome_readCongested (a : Answer RoutingVar) :
    (readCongested m a).outcome = .ok (congestedOf m a) := by
  rw [readCongested, Stage.outcome_bind,
    Stage.outcome_forEach_of_ok (g := fun l => a.isTrue (.congested l)) fun _ => rfl]
  show Except.ok ((((List.range m.numLinks).map _).count true : Nat) : Int) = _
  rw [List.count, List.countP_map, congestedOf]
  simp only [Function.comp_def, beq_true]

lemma outcome_readHints (a : Answer RoutingVar) : (readHints m a).outcome =
    .ok ((allLinkVars m).map fun v => (v, if a.isTrue v then 1 else 0)) :=
  Stage.outcome_forEach_of_ok (fun _ => rfl) _

/-- The routes are read flow by flow, from the links that each flow takes. -/
lemma outcome_readRoutes (a : Answer RoutingVar) (flows : List RoutedFlow) :
    (readRoutes t a flows).outcome = flows.mapM fun f =>
      (t.chain (selected t a f.flow.id) (some (.int f.source)) (some (.int f.sink))).map
        fun chain => chain.map fun g => (g.2.index : Int) := by
  rw [readRoutes, Stage.outcome_forEach]
  refine congrArg (flows.mapM ·) (funext fun f => ?_)
  rw [Stage.outcome_bind, outcome_readSelected, Except.ok_bind, Stage.outcome_bind]
  cases t.chain (selected t a f.flow.id) (some (.int f.source)) (some (.int f.sink)) <;> rfl

lemma isSilent_readRoutes (a : Answer RoutingVar) (flows : List RoutedFlow) :
    (readRoutes t a flows).IsSilent := by
  refine IsSilent.forEach fun f => ?_
  refine IsSilent.bind ?_ fun links => (Stage.isSilent_lift _).bind fun chain => rfl
  refine IsSilent.bind (IsSilent.forEach fun l => ?_) fun truths => rfl
  exact (Stage.isSilent_readTruth a _).bind fun truth => rfl

lemma isSilent_readOverrun (a : Answer RoutingVar) (total : Value) (budgets : List (Nat × Int)) :
    (readOverrun a total budgets).IsSilent := by
  induction budgets generalizing total with
  | nil => rfl
  | cons b budgets ih =>
    exact (Stage.isSilent_read a _).bind fun v => (Stage.isSilent_lift _).bind fun total => ih total

lemma isSilent_readCongested (a : Answer RoutingVar) : (readCongested m a).IsSilent :=
  (IsSilent.forEach fun l => Stage.isSilent_readTruth a (.congested l)).bind fun _ => rfl

lemma isSilent_readHints (a : Answer RoutingVar) : (readHints m a).IsSilent :=
  IsSilent.forEach fun v => (Stage.isSilent_readTruth a v).bind fun _ => rfl

/-! ### Stages -/

section Stages

variable (e : Engine RoutingVar) (c : Context) (o : RouteOptions)

/-- What is posted to pose the model. -/
def built : List (Posting RoutingVar) :=
  (RoutingModel.build c o.resolution (.int defaultMaxOverrun)).postings

/-- All that is posted for the first search. -/
def firstRequest : List (Posting RoutingVar) :=
  built c o ++ [.solve o.search]

/-- All that is posted for the second search, which has the given time. -/
def secondRequest (m : RoutingModel) (first : Answer RoutingVar) (overrun left : Value) :
    List (Posting RoutingVar) :=
  firstRequest c o ++ refinement m first overrun ++ [.solve { o.search with timeLimit := left }]

/-- There are flows to route, and the model has been posed. -/
structure IsPosed (m : RoutingModel) : Prop where
  nonempty : c.flows ≠ []
  model : (RoutingModel.build c o.resolution (.int defaultMaxOverrun)).outcome = .ok m
  made : e.take (built c o) = (built c o, .ok ())

/-- The first search has found routes. -/
structure HasRoutes (m : RoutingModel) (first : Answer RoutingVar)
    (routes : List (List Int)) : Prop extends IsPosed e c o m where
  answer : e.answer (firstRequest c o) = .ok first
  feasible : first.status.isFeasible = true
  routes_eq : (readRoutes c.topology first m.flows).outcome = .ok routes

/-- There is reason and time for a second search, and the first solution has been measured. -/
structure IsMeasured (m : RoutingModel) (first : Answer RoutingVar) (routes : List (List Int))
    (overrun left : Value) : Prop extends HasRoutes e c o m first routes where
  wanted : o.minimizesBandwidth = true
  left_eq : timeLeft o.search.timeLimit first.elapsed = .ok left
  unspent : isSpent left = false
  overrun_eq : (readOverrun first (.int 0) m.budgets).outcome = .ok overrun

/-- The refinement has been posed. -/
structure IsRefined (m : RoutingModel) (first : Answer RoutingVar) (routes : List (List Int))
    (overrun left : Value) : Prop extends IsMeasured e c o m first routes overrun left where
  refined : e.take (refinement m first overrun) = (refinement m first overrun, .ok ())

variable {e c o} in
/-- The routes of a run come from the answer to its first request. -/
lemma HasRoutes.eq_first {m m' : RoutingModel} {first first' : Answer RoutingVar}
    {routes : List (List Int)} (h : HasRoutes e c o m' first' routes)
    (hm : (RoutingModel.build c o.resolution (.int defaultMaxOverrun)).outcome = .ok m)
    (ha : e.answer (firstRequest c o) = .ok first) : m' = m ∧ first' = first :=
  ⟨Except.ok.inj (h.model.symm.trans hm), Except.ok.inj (h.answer.symm.trans ha)⟩

/-- The ways in which a run can go: what is posted, and what comes of it. -/
inductive Goes : List (Posting RoutingVar) → Except Fault RoutingResult → Prop
  /-- There is nothing to route. -/
  | idle : c.flows = [] → Goes [] (.ok ⟨.optimal, []⟩)
  /-- The engine refuses the model. -/
  | refused {made : List (Posting RoutingVar)} {fault : Fault} : c.flows ≠ [] →
    e.take (built c o) = (made, .error fault) → Goes made (.error fault)
  /-- The model cannot be built to the end. -/
  | unbuilt {fault : Fault} : c.flows ≠ [] → e.take (built c o) = (built c o, .ok ()) →
    (RoutingModel.build c o.resolution (.int defaultMaxOverrun)).outcome = .error fault →
    Goes (built c o) (.error fault)
  /-- The first search fails. -/
  | unanswered {m : RoutingModel} {fault : Fault} : IsPosed e c o m →
    e.answer (firstRequest c o) = .error fault → Goes (firstRequest c o) (.error fault)
  /-- The first search finds nothing. -/
  | unrouted {m : RoutingModel} {first : Answer RoutingVar} : IsPosed e c o m →
    e.answer (firstRequest c o) = .ok first → first.status.isFeasible = false →
    Goes (firstRequest c o) (.ok ⟨first.status, []⟩)
  /-- What the first search finds makes no routes. -/
  | unread {m : RoutingModel} {first : Answer RoutingVar} {fault : Fault} : IsPosed e c o m →
    e.answer (firstRequest c o) = .ok first → first.status.isFeasible = true →
    (readRoutes c.topology first m.flows).outcome = .error fault →
    Goes (firstRequest c o) (.error fault)
  /-- There is no reason or no time for a second search. -/
  | once {m : RoutingModel} {first : Answer RoutingVar} {routes : List (List Int)} :
    HasRoutes e c o m first routes →
    (o.minimizesBandwidth = false ∨
      ∃ left, timeLeft o.search.timeLimit first.elapsed = .ok left ∧ isSpent left = true) →
    Goes (firstRequest c o) (.ok ⟨first.status, routes⟩)
  /-- The time left or the overrun of the first solution cannot be worked out. -/
  | unmeasured {m : RoutingModel} {first : Answer RoutingVar} {routes : List (List Int)}
    {fault : Fault} : HasRoutes e c o m first routes → o.minimizesBandwidth = true →
    (timeLeft o.search.timeLimit first.elapsed = .error fault ∨
      (readOverrun first (.int 0) m.budgets).outcome = .error fault) →
    Goes (firstRequest c o) (.error fault)
  /-- The engine refuses the refinement. -/
  | unrefined {m : RoutingModel} {first : Answer RoutingVar} {routes : List (List Int)}
    {overrun left : Value} {made : List (Posting RoutingVar)} {fault : Fault} :
    IsMeasured e c o m first routes overrun left →
    e.take (refinement m first overrun) = (made, .error fault) →
    Goes (firstRequest c o ++ made) (.error fault)
  /-- The second search fails. -/
  | unanswered' {m : RoutingModel} {first : Answer RoutingVar} {routes : List (List Int)}
    {overrun left : Value} {fault : Fault} : IsRefined e c o m first routes overrun left →
    e.answer (secondRequest c o m first overrun left) = .error fault →
    Goes (secondRequest c o m first overrun left) (.error fault)
  /-- The second search finds nothing, and the first routes are kept. -/
  | kept {m : RoutingModel} {first second : Answer RoutingVar} {routes : List (List Int)}
    {overrun left : Value} : IsRefined e c o m first routes overrun left →
    e.answer (secondRequest c o m first overrun left) = .ok second →
    second.status.isFeasible = false →
    Goes (secondRequest c o m first overrun left) (.ok ⟨first.status, routes⟩)
  /-- What the second search finds makes no routes. -/
  | unread' {m : RoutingModel} {first second : Answer RoutingVar} {routes : List (List Int)}
    {overrun left : Value} {fault : Fault} : IsRefined e c o m first routes overrun left →
    e.answer (secondRequest c o m first overrun left) = .ok second →
    second.status.isFeasible = true →
    (readRoutes c.topology second m.flows).outcome = .error fault →
    Goes (secondRequest c o m first overrun left) (.error fault)
  /-- The second search finds routes. -/
  | twice {m : RoutingModel} {first second : Answer RoutingVar} {routes better : List (List Int)}
    {overrun left : Value} : IsRefined e c o m first routes overrun left →
    e.answer (secondRequest c o m first overrun left) = .ok second →
    second.status.isFeasible = true →
    (readRoutes c.topology second m.flows).outcome = .ok better →
    Goes (secondRequest c o m first overrun left) (.ok ⟨second.status, better⟩)

/-! ### Every run -/

/-- What was posted before, together with a run, is one of the ways in which a run can go. -/
def Ends (posted : List (Posting RoutingVar)) (r : RouteRun) : Prop :=
  Goes e c o (posted ++ r.postings) r.outcome

variable {e c o} {m : RoutingModel} {first : Answer RoutingVar} {routes : List (List Int)}
  {overrun left : Value} {posted ps : List (Posting RoutingVar)} {r : RouteRun}

lemma Goes.ends {result : RoutingResult} (h : Goes e c o posted (.ok result)) :
    Ends e c o posted (pure result) := by
  rw [Ends, Stage.isSilent_pure, List.append_nil]
  exact h

/-- A run ends as it should after a stage if it does so whatever the stage comes to. -/
lemma Ends.bind {α : Type} {s : Stage α} {f : α → RouteRun}
    (herror : ∀ fault, s.outcome = .error fault →
      Goes e c o (posted ++ s.postings) (.error fault))
    (hok : ∀ a, s.outcome = .ok a → Ends e c o (posted ++ s.postings) (f a)) :
    Ends e c o posted (s >>= f) := by
  cases h : s.outcome with
  | ok a =>
    rw [Ends, Stage.postings_bind_of_ok h, ← List.append_assoc, Stage.outcome_bind, h]
    exact hok a h
  | error fault =>
    rw [Ends, Stage.postings_bind_of_error h, Stage.outcome_bind, h]
    exact herror fault h

lemma Ends.bind_of_isSilent {α : Type} {s : Stage α} {f : α → RouteRun} (hs : s.IsSilent)
    (herror : ∀ fault, s.outcome = .error fault → Goes e c o posted (.error fault))
    (hok : ∀ a, s.outcome = .ok a → Ends e c o posted (f a)) :
    Ends e c o posted (s >>= f) := by
  have hposted : posted ++ s.postings = posted := by rw [hs, List.append_nil]
  exact .bind (hposted.symm ▸ herror) (hposted.symm ▸ hok)

/-- Reading something that can always be read is no reason to end. -/
lemma Ends.bind_of_ok {α : Type} {s : Stage α} {f : α → RouteRun} {a : α} (hs : s.IsSilent)
    (ha : s.outcome = .ok a) (h : Ends e c o posted (f a)) : Ends e c o posted (s >>= f) := by
  refine .bind_of_isSilent hs (fun fault hfault => ?_) fun a' ha' => ?_
  · rw [ha] at hfault
    cases hfault
  · obtain rfl := Except.ok.inj (ha.symm.trans ha')
    exact h

lemma Ends.noteAll {f : Unit → RouteRun} (h : Ends e c o posted (f ())) (ns : List LogEntry) :
    Ends e c o posted (Stage.noteAll ns >>= f) :=
  .bind_of_ok (Stage.isSilent_noteAll ns) rfl h

lemma Goes.ends_finish {status : Status} (h : Goes e c o posted (.ok ⟨status, routes⟩))
    (elapsed : Float) : Ends e c o posted (finish status routes elapsed) :=
  h.ends.noteAll _

lemma ends_refineFrom (h : IsMeasured e c o m first routes overrun left) :
    Ends e c o (firstRequest c o) (refineFrom e c.topology m (firstRequest c o) first routes
      { o.search with timeLimit := left } (refinement m first overrun)) := by
  unfold refineFrom
  refine Ends.bind (fun fault hfault => ?_) fun _ htake => ?_
  · rw [Stage.postings_post]
    exact Goes.unrefined h (Prod.ext rfl hfault)
  · have h' : IsRefined e c o m first routes overrun left :=
      { h with refined := Stage.take_eq_of_post htake }
    rw [Stage.postings_post_of_ok htake]
    refine Ends.bind (fun fault hfault => Goes.unanswered' h' hfault) fun second hanswer => ?_
    by_cases hfeasible : second.status.isFeasible = true
    · rw [if_pos hfeasible]
      refine Ends.bind_of_isSilent (isSilent_readRoutes second m.flows) (fun fault hread => ?_)
        fun better hread => ?_
      · exact Goes.unread' h' hanswer hfeasible hread
      · exact (Goes.twice h' hanswer hfeasible hread).ends_finish _
    · rw [if_neg hfeasible]
      have hinfeasible := eq_false_of_ne_true hfeasible
      exact ((Goes.kept h' hanswer hinfeasible).ends_finish _).noteAll _

lemma ends_refine (h : HasRoutes e c o m first routes) (hwanted : o.minimizesBandwidth = true)
    (hleft : timeLeft o.search.timeLimit first.elapsed = .ok left) (hspent : isSpent left = false) :
    Ends e c o (firstRequest c o) (refine e c.topology m (firstRequest c o) first routes
      { o.search with timeLimit := left }) := by
  unfold refine
  refine Ends.bind_of_isSilent (isSilent_readOverrun first (.int 0) m.budgets)
    (fun fault hread => Goes.unmeasured h hwanted (.inr hread)) fun overrun hread => ?_
  have h' : IsMeasured e c o m first routes overrun left := { h with
    wanted := hwanted
    left_eq := hleft
    unspent := hspent
    overrun_eq := hread }
  refine Ends.bind_of_ok (isSilent_readCongested first) (outcome_readCongested first) ?_
  refine Ends.bind_of_ok (isSilent_readHints first) (outcome_readHints first) ?_
  exact (ends_refineFrom h').noteAll _

lemma ends_continueFrom (h : HasRoutes e c o m first routes) :
    Ends e c o (firstRequest c o)
      (continueFrom e c.topology m o (firstRequest c o) first routes) := by
  unfold continueFrom
  by_cases hwanted : o.minimizesBandwidth = true
  · rw [if_pos hwanted]
    refine Ends.bind_of_isSilent (Stage.isSilent_lift _)
      (fun fault hleft => Goes.unmeasured h hwanted (.inl hleft)) fun left hleft => ?_
    by_cases hspent : isSpent left = true
    · rw [if_pos hspent]
      exact ((Goes.once h (.inr ⟨left, hleft, hspent⟩)).ends_finish _).noteAll _
    · rw [if_neg hspent]
      exact ends_refine h hwanted hleft (eq_false_of_ne_true hspent)
  · rw [if_neg hwanted]
    exact (Goes.once h (.inl (eq_false_of_ne_true hwanted))).ends_finish _

lemma ends_search (h : IsPosed e c o m) :
    Ends e c o (built c o) (search e c.topology m o (built c o)) := by
  unfold search
  refine Ends.bind (fun fault hfault => Goes.unanswered h hfault) fun first hanswer => ?_
  by_cases hfeasible : first.status.isFeasible = true
  · rw [if_pos hfeasible]
    refine Ends.bind_of_isSilent (isSilent_readRoutes first m.flows)
      (fun fault hread => Goes.unread h hanswer hfeasible hread) fun routes hread => ?_
    exact ends_continueFrom
      { h with answer := hanswer, feasible := hfeasible, routes_eq := hread }
  · rw [if_neg hfeasible]
    exact (Goes.unrouted h hanswer (eq_false_of_ne_true hfeasible)).ends.noteAll _

end Stages

/-- There are no other ways in which a run can go. -/
theorem goes (e : Engine RoutingVar) (c : Context) (o : RouteOptions) :
    Goes e c o (route e c o).postings (route e c o).outcome := by
  suffices hends : Ends e c o [] (route e c o) from hends
  unfold route
  by_cases hflows : c.flows = []
  · rw [if_pos (by simpa using hflows)]
    exact (Goes.idle hflows).ends.noteAll _
  · rw [if_neg (by simpa using hflows)]
    refine Ends.bind (fun fault hfault => ?_) fun _ htake => ?_
    · rw [Stage.postings_post]
      exact Goes.refused hflows (Prod.ext rfl hfault)
    · have htaken : e.take (built c o) = (built c o, .ok ()) := Stage.take_eq_of_post htake
      rw [Stage.postings_post_of_ok htake, ← built]
      refine Ends.bind_of_isSilent (Stage.isSilent_lift _)
        (fun fault hmodel => Goes.unbuilt hflows htaken hmodel) fun m hmodel => ?_
      exact (ends_search ⟨hflows, hmodel, htaken⟩).noteAll _

/-! ### What was posted -/

section Posted

variable {e : Engine RoutingVar} {c : Context} {o : RouteOptions}
  {posted : List (Posting RoutingVar)} {outcome : Except Fault RoutingResult}

/-- All that is posted in a run belongs to one of its requests. -/
lemma Goes.isPrefix (h : Goes e c o posted outcome) : posted <+: firstRequest c o ∨
    ∃ m first routes overrun left, IsMeasured e c o m first routes overrun left ∧
      posted <+: secondRequest c o m first overrun left := by
  cases h with
  | idle _ => exact Or.inl List.nil_prefix
  | refused _ htake =>
    exact Or.inl ((Engine.isPrefix_of_take_eq htake).trans (List.prefix_append _ _))
  | unbuilt _ _ _ => exact Or.inl (List.prefix_append _ _)
  | unanswered _ _ => exact Or.inl List.prefix_rfl
  | unrouted _ _ _ => exact Or.inl List.prefix_rfl
  | unread _ _ _ _ => exact Or.inl List.prefix_rfl
  | once _ _ => exact Or.inl List.prefix_rfl
  | unmeasured _ _ _ => exact Or.inl List.prefix_rfl
  | unrefined h htake =>
    refine Or.inr ⟨_, _, _, _, _, h, List.IsPrefix.trans ?_ (List.prefix_append _ _)⟩
    exact (List.prefix_append_right_inj _).2 (Engine.isPrefix_of_take_eq htake)
  | unanswered' h _ => exact Or.inr ⟨_, _, _, _, _, h.toIsMeasured, List.prefix_rfl⟩
  | kept h _ _ => exact Or.inr ⟨_, _, _, _, _, h.toIsMeasured, List.prefix_rfl⟩
  | unread' h _ _ _ => exact Or.inr ⟨_, _, _, _, _, h.toIsMeasured, List.prefix_rfl⟩
  | twice h _ _ _ => exact Or.inr ⟨_, _, _, _, _, h.toIsMeasured, List.prefix_rfl⟩

/-- The refinement does not ask the engine to solve. -/
lemma solve_notMem_refinement {m : RoutingModel} {a : Answer RoutingVar} {overrun : Value}
    {q : SearchParameters} : .solve q ∉ refinement m a overrun := by
  simp [refinement_eq]

/-- A run that goes on to a second request has posed the refinement, and comes to what is read off
the answer, if that is a solution; otherwise the first routes are kept. -/
theorem Goes.second (h : Goes e c o posted outcome) {between : List (Posting RoutingVar)}
    {q : SearchParameters} (hposted : posted = firstRequest c o ++ between ++ [.solve q]) :
    ∃ m first routes overrun left, IsRefined e c o m first routes overrun left ∧
      posted = secondRequest c o m first overrun left ∧
      outcome = match e.answer posted with
        | .error fault => .error fault
        | .ok second =>
          if second.status.isFeasible then
            (readRoutes c.topology second m.flows).outcome.map (⟨second.status, ·⟩)
          else .ok ⟨first.status, routes⟩ := by
  have hshort : ¬ posted <+: firstRequest c o := by
    intro hpre
    have hle := hpre.length_le
    rw [hposted, List.length_append, List.length_append, List.length_singleton] at hle
    omega
  cases h with
  | idle _ => exact absurd List.nil_prefix hshort
  | refused _ htake =>
    exact absurd ((Engine.isPrefix_of_take_eq htake).trans (List.prefix_append _ _)) hshort
  | unbuilt _ _ _ => exact absurd (List.prefix_append _ _) hshort
  | unanswered _ _ => exact absurd List.prefix_rfl hshort
  | unrouted _ _ _ => exact absurd List.prefix_rfl hshort
  | unread _ _ _ _ => exact absurd List.prefix_rfl hshort
  | once _ _ => exact absurd List.prefix_rfl hshort
  | unmeasured _ _ _ => exact absurd List.prefix_rfl hshort
  | unrefined h htake =>
    rw [List.append_assoc, List.append_cancel_left_eq] at hposted
    have hmem : .solve q ∈ between ++ [.solve q] := by simp
    rw [← hposted] at hmem
    exact absurd ((Engine.isPrefix_of_take_eq htake).subset hmem) solve_notMem_refinement
  | unanswered' h ha => exact ⟨_, _, _, _, _, h, rfl, by rw [ha]⟩
  | kept h ha hinfeasible => exact ⟨_, _, _, _, _, h, rfl, by simp [ha, hinfeasible]⟩
  | unread' h ha hfeasible hread =>
    exact ⟨_, _, _, _, _, h, rfl, by simp [ha, hfeasible, hread, Except.map]⟩
  | twice h ha hfeasible hread =>
    exact ⟨_, _, _, _, _, h, rfl, by simp [ha, hfeasible, hread, Except.map]⟩

end Posted

end Route

end NocRouting
