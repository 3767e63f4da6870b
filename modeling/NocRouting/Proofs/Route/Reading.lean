import NocRouting.Proofs.Model.Exactness
import NocRouting.Proofs.Network.Travel
import NocRouting.Proofs.Route.Runs
import NocRouting.Proofs.Whole

/-!
# Reading an answer

The values that are reported for a solution are read in three ways: as the routes of the flows, as
the total overrun, and as the number of congested links.  The links that a flow takes in a solution
are those of a simple path, so the routes come out in travelling order, and reading them does not
fail.

* `readRoutes_eq`, `readOverrun_eq` and `congestedOf_eq` say what is read.
* `Engine.IsHonest.exists_routes` says what is read off the answer of an honest engine.
-/

namespace NocRouting

-- Empty sums are the `0` of core, whatever a reader of this module has loaded besides.
attribute [local instance (2000)] Zero.ofOfNat0

open RoutingModel

/-- The numbers of the links of a path. -/
def numbers (path : List Link) : List Int :=
  path.map fun l => (l.index : Int)

/-! ### Reading routes -/

/-- The overrun that is read is the sum of the counters, if these are whole numbers. -/
lemma readOverrun_eq_sum {a : Answer RoutingVar} (ha : ∀ f, (a.value (.overrun f)).IsWhole)
    (total : Int) (budgets : List (Nat × Int)) :
    (Route.readOverrun a (.int total) budgets).outcome =
      .ok (.int (total + (budgets.map fun b => (a.value (.overrun b.1)).whole).sum)) := by
  induction budgets generalizing total with
  | nil => simp [Route.readOverrun]
  | cons b budgets ih =>
    have hplus := (Value.isWhole_int total).plus_eq (ha b.1)
    rw [Route.readOverrun, Stage.outcome_bind, Stage.outcome_read, Except.ok_bind,
      Stage.outcome_bind, Stage.outcome_lift, hplus, Except.ok_bind, Value.whole_int, ih,
      List.map_cons, List.sum_cons, Int.add_assoc]

section Reading

variable {t : Topology} {a : Answer RoutingVar} {σ : RoutingVar → Int}
  (ha : ∀ v, a.value v = .int (σ v))
include ha

lemma isTrue_of_value (v : RoutingVar) : a.isTrue v = (σ v != 0) := by
  rw [Answer.isTrue, ha]
  rfl

/-- The links selected are those taken. -/
lemma selected_eq (flow : Nat) :
    Route.selected t a flow = (t.taken σ flow).map fun l => .int l.index := by
  simp only [Route.selected, Topology.taken, isTrue_of_value ha]

/-- The routes that are read are paths, if the links taken are those of paths. -/
lemma readRoutes_eq (ht : t.IsSound) {flows : List RoutedFlow} {paths : List (List Link)}
    (hpaths : List.Forall₂ (fun g path => IsSimplePath g.source path g.sink ∧ path ⊆ t.links ∧
      (t.taken σ g.flow.id).Perm path) flows paths) :
    (Route.readRoutes t a flows).outcome = .ok (paths.map numbers) := by
  rw [Route.outcome_readRoutes, Except.mapM_eq_ok, List.forall₂_map_right_iff]
  refine hpaths.imp ?_
  rintro g path ⟨hpath, hsub, hperm⟩
  rw [selected_eq ha, ht.chain_eq hpath hsub hperm, Except.map, List.map_map]
  rfl

/-- The overrun that is read is the sum of the counters. -/
lemma readOverrun_eq (total : Int) (budgets : List (Nat × Int)) :
    (Route.readOverrun a (.int total) budgets).outcome =
      .ok (.int (total + (totalOverrun budgets).value σ)) := by
  rw [readOverrun_eq_sum (fun f => by rw [ha]; rfl)]
  simp [totalOverrun, value_sumOf, ha, Function.comp_def]

/-- The number of congested links that is read is that of the indicators. -/
lemma congestedOf_eq (h : ∀ l < m.numLinks, σ (.congested l) = 0 ∨ σ (.congested l) = 1) :
    Route.congestedOf m a = (totalCongested m.numLinks).value σ := by
  rw [Route.congestedOf, totalCongested, value_sumOf, ← sum_map_ite, List.map_map]
  refine congrArg List.sum (List.map_congr_left fun l hl => ?_)
  rw [isTrue_of_value ha]
  rcases h l (List.mem_range.1 hl) with h | h <;> simp [h]

end Reading

lemma asNumber_eq_error {v : Value} {fault : Fault} (h : v.asNumber = .error fault) :
    fault = .mismatch := by
  unfold Value.asNumber at h
  split at h
  · simp at h
  · exact (Except.error.inj h).symm

/-- The time that is left cannot be worked out for want of a number, or of a moderate one. -/
lemma timeLeft_eq_error {limit : Value} {elapsed : Float} {fault : Fault}
    (h : Route.timeLeft limit elapsed = .error fault) : fault = .mismatch ∨ fault = .tooLarge := by
  unfold Route.timeLeft at h
  split at h
  · simp [pure, Except.pure] at h
  · simp only [Value.minus, Value.combined, Except.bind_eq_error] at h
    rcases h with h | ⟨_, -, h | ⟨_, -, h | ⟨_, -, h⟩⟩⟩
    · exact Or.inl (asNumber_eq_error h)
    · exact Or.inl (asNumber_eq_error h)
    · unfold Number.meeting at h
      split at h
      · exact Or.inr (Except.error.inj h).symm
      · simp at h
    · simp [pure, Except.pure] at h

/-! ### Honest engines -/

section Honest

variable {c : Context} {m : RoutingModel} {ps rest : List (Posting RoutingVar)}
  {resolution maxOverrun : Value} {a : Answer RoutingVar}

/-- What is read off an assignment that sends the flows along the paths of a legal routing are these
paths. -/
lemma IsAssembled.readRoutes_eq {σ : RoutingVar → Int} {paths : List (List Link)} (hc : c.IsProper)
    (h : IsAssembled c resolution maxOverrun ps m) (ha : ∀ v, a.value v = .int (σ v))
    (hr : c.IsRouting paths) (hf : c.Follows σ paths) :
    (Route.readRoutes c.topology a m.flows).outcome = .ok (paths.map numbers) := by
  have hpaths := List.Forall₂.mp (fun _ _ => And.intro) hr (forall₂_of_follows hc hr hf)
  refine NocRouting.readRoutes_eq ha hc.topology.isSound ((forall₂_of_same h.flows hpaths).imp ?_)
  rintro g path ⟨f, ⟨rfl, hends⟩, ⟨a, b, hab, hpath⟩, -, hperm, -⟩
  obtain ⟨rfl, rfl⟩ : a = g.source ∧ b = g.sink := by simpa [hab] using hends
  exact ⟨hpath.simple, hpath.subset, hperm⟩

/-- What an honest engine reports on a model that was posed is an assignment that meets it, and the
routes read off it are those of a legal routing. -/
theorem Engine.IsHonest.exists_routes {e : Engine RoutingVar} (he : e.IsHonest) (hc : c.IsProper)
    (h : IsAssembled c resolution maxOverrun ps m) (ha : e.answer (ps ++ rest) = .ok a)
    (hfeasible : a.status.isFeasible = true) :
    ∃ σ paths, (∀ v, a.value v = .int (σ v)) ∧ Satisfies σ (ps ++ rest) ∧ c.IsRouting paths ∧
      c.Follows σ paths ∧ (Route.readRoutes c.topology a m.flows).outcome = .ok (paths.map numbers) := by
  obtain ⟨σ, hvalue, hσ⟩ := he _ a ha hfeasible
  obtain ⟨paths, hr, hf⟩ := h.exists_routing hc (satisfies_append.1 hσ).1
  exact ⟨σ, paths, hvalue, hσ, hr, hf, h.readRoutes_eq hc hvalue hr hf⟩

end Honest

/-! ### The answers of a run -/

section Runs

variable {e : Engine RoutingVar} {c : Context} {o : RouteOptions} {m : RoutingModel}
  {first : Answer RoutingVar} {overrun left : Value}

lemma Route.isAssembled_built
    (hm : (build c o.resolution (.int defaultMaxOverrun)).outcome = .ok m) :
    IsAssembled c o.resolution (.int defaultMaxOverrun) (Route.built c o) m :=
  isAssembled_of_build (by rw [← hm]; rfl)

lemma Route.IsPosed.isAssembled (h : Route.IsPosed e c o m) :
    IsAssembled c o.resolution (.int defaultMaxOverrun) (Route.built c o) m :=
  isAssembled_built h.model

lemma Route.secondRequest_eq : Route.secondRequest c o m first overrun left =
    Route.built c o ++ ([.solve o.search] ++ Route.refinement m first overrun ++
      [.solve { o.search with timeLimit := left }]) := by
  simp [Route.secondRequest, Route.firstRequest]

/-- What a run reads off the first answer. -/
theorem Engine.IsHonest.exists_first (he : e.IsHonest) (hc : c.IsProper)
    (h : Route.IsPosed e c o m) (ha : e.answer (Route.firstRequest c o) = .ok first)
    (hfeasible : first.status.isFeasible = true) :
    ∃ σ paths, (∀ v, first.value v = .int (σ v)) ∧ Satisfies σ (Route.firstRequest c o) ∧
      c.IsRouting paths ∧ c.Follows σ paths ∧
      (Route.readRoutes c.topology first m.flows).outcome = .ok (paths.map numbers) :=
  he.exists_routes hc h.isAssembled ha hfeasible

/-- The routes of the first search are those of a legal routing. -/
lemma Route.HasRoutes.exists_routing (he : e.IsHonest) (hc : c.IsProper)
    {routes : List (List Int)} (h : Route.HasRoutes e c o m first routes) :
    ∃ paths, c.IsRouting paths ∧ routes = paths.map numbers := by
  obtain ⟨σ, paths, -, -, hr, -, hok⟩ := he.exists_first hc h.toIsPosed h.answer h.feasible
  exact ⟨paths, hr, Except.ok.inj (h.routes_eq.symm.trans hok)⟩

/-- What a run reads off the second answer. -/
theorem Engine.IsHonest.exists_second (he : e.IsHonest) (hc : c.IsProper)
    (h : Route.IsPosed e c o m) {second : Answer RoutingVar}
    (ha : e.answer (Route.secondRequest c o m first overrun left) = .ok second)
    (hfeasible : second.status.isFeasible = true) :
    ∃ σ paths, (∀ v, second.value v = .int (σ v)) ∧
      Satisfies σ (Route.secondRequest c o m first overrun left) ∧ c.IsRouting paths ∧
      c.Follows σ paths ∧
      (Route.readRoutes c.topology second m.flows).outcome = .ok (paths.map numbers) := by
  rw [Route.secondRequest_eq] at ha ⊢
  exact he.exists_routes hc h.isAssembled ha hfeasible

end Runs

end NocRouting
