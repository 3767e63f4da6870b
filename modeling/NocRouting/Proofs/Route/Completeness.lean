import Mathlib.Data.Nat.Find
import NocRouting.Proofs.Route.Limits

/-!
# Runs that find a routing

If an engine finds a solution whenever there is one, a run against it finds a routing whenever there
is a legal one.  The second search finds one too, if it is wanted and there is time for it, as the first
solution meets its limits.

* `Engine.ProvesOptima` and `Engine.Finds` say what an engine may achieve, and `Engine.best` is an
  honest engine that achieves both.  `Engine.slowed` is an engine that takes its time.
* `Route.goes_twice` says that a run with two searches finds a routing in both.
-/

namespace NocRouting

-- Empty sums are the `0` of core, whatever a reader of this module has loaded besides.
attribute [local instance (2000)] Zero.ofOfNat0

open RoutingModel

/-! ### Engines -/

section Engines

variable {ν : Type} {e : Engine ν} {ps : List (Posting ν)} {a : Answer ν}

/-- A least solution exists if the objective has a lower bound. -/
lemma exists_isLeast {expr : LinearExpr Int ν} (he : lastObjective? ps = some expr)
    (hsat : ∃ σ, Satisfies σ ps) (hlow : ∀ σ, Satisfies σ ps → 0 ≤ expr.value σ) :
    ∃ σ, Satisfies σ ps ∧ IsLeast σ ps := by
  classical
  have hvalues : ∃ n : Nat, ∃ σ, Satisfies σ ps ∧ expr.value σ = n := by
    obtain ⟨σ, hσ⟩ := hsat
    exact ⟨(expr.value σ).toNat, σ, hσ, (Int.toNat_of_nonneg (hlow σ hσ)).symm⟩
  obtain ⟨σ, hσ, hvalue⟩ := Nat.find_spec hvalues
  refine ⟨σ, hσ, fun e' he' τ hτ => ?_⟩
  obtain rfl := Option.some.inj (he.symm.trans he')
  have hfind : Nat.find hvalues ≤ (expr.value τ).toNat :=
    Nat.find_le ⟨τ, hτ, (Int.toNat_of_nonneg (hlow τ hτ)).symm⟩
  have hτlow := hlow τ hτ
  omega

namespace Engine

/-- When the engine reports an optimum, nothing that meets everything posted makes the last
objective smaller. -/
def ProvesOptima (e : Engine ν) : Prop :=
  ∀ postings a, e.answer postings = .ok a → a.status = .optimal →
    ∀ σ : ν → Int, (∀ v, a.value v = .int (σ v)) → IsLeast σ postings

/-- The engine takes everything, and finds a solution whenever there is one. -/
structure Finds (e : Engine ν) : Prop where
  accepts : ∀ p, e.accepts p = .ok ()
  answers : ∀ ps, (∃ σ, Satisfies σ ps) →
    ∃ a, e.answer ps = .ok a ∧ a.status.isFeasible = true

open Classical in
/-- An engine that reports a best solution if there is one, or any if there is no best one. -/
noncomputable def best : Engine ν where
  accepts _ := .ok ()
  answer ps := .ok <|
    if h : ∃ σ, Satisfies σ ps ∧ IsLeast σ ps then ⟨.optimal, fun v => .int (h.choose v), 0.0⟩
    else if h : ∃ σ, Satisfies σ ps then ⟨.feasible, fun v => .int (h.choose v), 0.0⟩
    else ⟨.infeasible, fun _ => .int 0, 0.0⟩

lemma best_answer (h : best.answer ps = .ok a) :
    (a.status = .optimal ∧ ∃ σ, (∀ v, a.value v = .int (σ v)) ∧ Satisfies σ ps ∧ IsLeast σ ps) ∨
    (a.status = .feasible ∧ (∃ σ, (∀ v, a.value v = .int (σ v)) ∧ Satisfies σ ps) ∧
      ¬ ∃ σ, Satisfies σ ps ∧ IsLeast σ ps) ∨
    (a.status = .infeasible ∧ ¬ ∃ σ, Satisfies σ ps) := by
  obtain rfl := Except.ok.inj h
  split
  · rename_i hleast
    exact Or.inl ⟨rfl, _, fun _ => rfl, hleast.choose_spec⟩
  · rename_i hnone
    split
    · rename_i hsat
      exact Or.inr (Or.inl ⟨rfl, ⟨_, fun _ => rfl, hsat.choose_spec⟩, hnone⟩)
    · rename_i hunsat
      exact Or.inr (Or.inr ⟨rfl, hunsat⟩)

lemma best_isHonest : (best : Engine ν).IsHonest := by
  intro ps a ha hfeasible
  rcases best_answer ha with ⟨-, σ, hvalue, hσ, -⟩ | ⟨-, ⟨σ, hvalue, hσ⟩, -⟩ | ⟨hstatus, -⟩
  · exact ⟨σ, hvalue, hσ⟩
  · exact ⟨σ, hvalue, hσ⟩
  · simp [hstatus] at hfeasible

lemma best_provesOptima : (best : Engine ν).ProvesOptima := by
  intro ps a ha hoptimal σ hσ
  rcases best_answer ha with ⟨-, τ, hτ, -, hleast⟩ | ⟨hstatus, -⟩ | ⟨hstatus, -⟩
  · have hvalues : σ = τ := funext fun v => by simpa [hσ v] using hτ v
    exact hvalues ▸ hleast
  · simp [hstatus] at hoptimal
  · simp [hstatus] at hoptimal

lemma best_finds : (best : Engine ν).Finds where
  accepts _ := rfl
  answers ps hsat := by
    refine ⟨_, rfl, ?_⟩
    rcases best_answer rfl with ⟨hstatus, -⟩ | ⟨hstatus, -⟩ | ⟨-, hunsat⟩
    · rw [hstatus]
      rfl
    · rw [hstatus]
      rfl
    · exact absurd hsat hunsat

/-- The best solution is reported as such, if the objective has a lower bound. -/
lemma best_status {expr : LinearExpr Int ν} (ha : best.answer ps = .ok a)
    (he : lastObjective? ps = some expr) (hsat : ∃ σ, Satisfies σ ps)
    (hlow : ∀ σ, Satisfies σ ps → 0 ≤ expr.value σ) : a.status = .optimal := by
  rcases best_answer ha with ⟨hstatus, -⟩ | ⟨-, -, hnone⟩ | ⟨-, hunsat⟩
  · exact hstatus
  · exact absurd (exists_isLeast he hsat hlow) hnone
  · exact absurd hsat hunsat

/-- An engine with the answers of another one, for each of which it takes a number of seconds. -/
def slowed (e : Engine ν) (seconds : Float) : Engine ν where
  accepts := e.accepts
  answer ps := (e.answer ps).map fun a => { a with elapsed := seconds }

variable {seconds : Float}

lemma slowed_answer : (e.slowed seconds).answer ps = .ok a ↔
    ∃ b, e.answer ps = .ok b ∧ a = { b with elapsed := seconds } := by
  simp only [slowed, Except.map_eq_ok, @eq_comm _ a]

lemma IsHonest.slowed (h : e.IsHonest) : (e.slowed seconds).IsHonest := by
  intro ps a ha hfeasible
  obtain ⟨b, hb, rfl⟩ := slowed_answer.1 ha
  exact h ps b hb hfeasible

lemma Finds.slowed (h : e.Finds) : (e.slowed seconds).Finds where
  accepts := h.accepts
  answers ps hsat := by
    obtain ⟨b, hb, hfeasible⟩ := h.answers ps hsat
    exact ⟨_, slowed_answer.2 ⟨b, hb, rfl⟩, hfeasible⟩

end Engine

end Engines

/-! ### Two searches -/

section Runs

variable {e : Engine RoutingVar} {c : Context} {o : RouteOptions} {m : RoutingModel} {r : Int}
  {paths : List (List Link)} (hc : c.IsProper) (hr : o.resolution = .int r)
  (hm : (build c o.resolution (.int defaultMaxOverrun)).outcome = .ok m)
  (hrouting : c.IsRouting paths)
include hc hr hm hrouting

/-- If there is a legal routing, something meets the first request. -/
lemma Route.exists_satisfies_firstRequest : ∃ σ, Satisfies σ (Route.firstRequest c o) := by
  have h : IsAssembled c (.int r) (.int defaultMaxOverrun) (Route.built c o) m :=
    hr ▸ Route.isAssembled_built hm
  refine ⟨Search.assignment m (.int r) paths, satisfies_append_solve.2 ?_⟩
  exact h.satisfies_assignment hc hrouting fun _ _ => Int.le_trans (by decide) (le_max_left _ _)

/-- A run with two searches finds a routing in both, if there is a legal one and the first search
leaves some time. -/
theorem Route.goes_twice (he : e.IsHonest) (hfinds : e.Finds) (hflows : c.flows ≠ [])
    (hwanted : o.minimizesBandwidth = true)
    (htime : ∀ a, e.answer (Route.firstRequest c o) = .ok a →
      ∃ left, Route.timeLeft o.search.timeLimit a.elapsed = .ok left ∧
        Route.isSpent left = false) :
    ∃ first second routes better overrun left, Route.IsRefined e c o m first routes overrun left ∧
      e.answer (Route.secondRequest c o m first overrun left) = .ok second ∧
      second.status.isFeasible = true ∧
      (route e c o).postings = Route.secondRequest c o m first overrun left ∧
      (route e c o).outcome = .ok ⟨second.status, better⟩ := by
  have hbuild : IsAssembled c (.int r) (.int defaultMaxOverrun) (Route.built c o) m :=
    hr ▸ Route.isAssembled_built hm
  obtain ⟨a, ha, hfound⟩ := hfinds.answers _ (exists_satisfies_firstRequest hc hr hm hrouting)
  obtain ⟨left, hleft, hunspent⟩ := htime a ha
  -- the first solution meets the second request
  have hagain : ∀ {m' first routes overrun left},
      Route.IsRefined e c o m' first routes overrun left → m' = m ∧
        ∃ second, e.answer (Route.secondRequest c o m' first overrun left) = .ok second ∧
          second.status.isFeasible = true := by
    intro m' first routes overrun left h
    obtain rfl := Except.ok.inj (h.model.symm.trans hm)
    obtain ⟨σ, -, hvalue, hσ, -⟩ := he.exists_first hc h.toIsPosed h.answer h.feasible
    exact ⟨rfl, hfinds.answers _
      ⟨σ, hbuild.satisfies_secondRequest_self hc hσ hvalue h.overrun_eq⟩⟩
  have hgoes := Route.goes e c o
  generalize (route e c o).postings = posted, (route e c o).outcome = outcome at hgoes ⊢
  cases hgoes with
  | idle hnone => exact absurd hnone hflows
  | refused _ htake => exact absurd htake (Engine.take_ne_error hfinds.accepts)
  | unbuilt _ _ hfault => simp [hm] at hfault
  | unanswered _ hfault => simp [ha] at hfault
  | unrouted _ hfirst hinfeasible =>
    obtain rfl := Except.ok.inj (ha.symm.trans hfirst)
    simp [hfound] at hinfeasible
  | unread h hfirst hfeasible hread =>
    obtain ⟨-, paths, -, -, -, -, hok⟩ := he.exists_first hc h hfirst hfeasible
    simp [hok] at hread
  | once h hended =>
    obtain rfl := Except.ok.inj (ha.symm.trans h.answer)
    rcases hended with hunwanted | ⟨left, hleft', hspent⟩
    · simp [hwanted] at hunwanted
    · obtain rfl := Except.ok.inj (hleft.symm.trans hleft')
      simp [hunspent] at hspent
  | unmeasured h _ hfault =>
    obtain rfl := Except.ok.inj (ha.symm.trans h.answer)
    obtain ⟨σ, -, hvalue, -⟩ := he.exists_first hc h.toIsPosed h.answer h.feasible
    rcases hfault with hfault | hread
    · simp [hleft] at hfault
    · simp [readOverrun_eq hvalue] at hread
  | unrefined _ htake => exact absurd htake (Engine.take_ne_error hfinds.accepts)
  | unanswered' h hfault =>
    obtain ⟨-, second, hsecond, -⟩ := hagain h
    simp [hsecond] at hfault
  | kept h hsecond hinfeasible =>
    obtain ⟨-, second', hsecond', hfeasible⟩ := hagain h
    obtain rfl := Except.ok.inj (hsecond.symm.trans hsecond')
    simp [hfeasible] at hinfeasible
  | unread' h hsecond hfeasible hread =>
    obtain ⟨-, paths, -, -, -, -, hok⟩ := he.exists_second hc h.toIsPosed hsecond hfeasible
    simp [hok] at hread
  | twice h hsecond hfeasible hread =>
    obtain ⟨rfl, -⟩ := hagain h
    exact ⟨_, _, _, _, _, _, h, hsecond, hfeasible, rfl, rfl⟩

end Runs

/-- There is always some time left if it is not limited. -/
lemma Route.exists_timeLeft_of_null {limit : Value} (h : limit = .null) (elapsed : Float) :
    ∃ left, Route.timeLeft limit elapsed = .ok left ∧ Route.isSpent left = false := by
  subst h
  exact ⟨.null, rfl, rfl⟩

/-! ### Best answers -/

section Best

variable {c : Context} {o : RouteOptions} {m : RoutingModel} {r : Int} {a : Answer RoutingVar}
  (hc : c.IsProper) (h : IsAssembled c (.int r) (.int defaultMaxOverrun) (Route.built c o) m)
  (hd : ∀ d ∈ m.demands, 0 ≤ d)
include hc h hd

/-- The first solution of the best engine is an optimum. -/
lemma IsAssembled.best_first (ha : Engine.best.answer (Route.firstRequest c o) = .ok a)
    (hfeasible : a.status.isFeasible = true) : a.status = .optimal := by
  obtain ⟨σ, -, -, hσ, -⟩ := Engine.best_isHonest.exists_routes hc h ha hfeasible
  refine Engine.best_status ha (lastObjective?_append_solve.trans h.lastObjective?) ⟨σ, hσ⟩
    fun τ hτ => ?_
  have hmodel := satisfies_append_solve.1 hτ
  obtain ⟨paths, hrouting, hfollows⟩ := h.exists_routing hc hmodel
  exact h.value_objective_nonneg hc hd hmodel hrouting hfollows

/-- The second solution of the best engine is an optimum. -/
lemma IsAssembled.best_second {first : Answer RoutingVar} {overrun left : Value}
    (ha : Engine.best.answer (Route.secondRequest c o m first overrun left) = .ok a)
    (hfeasible : a.status.isFeasible = true) : a.status = .optimal := by
  obtain ⟨σ, -, hσ⟩ := Engine.best_isHonest _ _ ha hfeasible
  refine Engine.best_status ha Route.lastObjective?_secondRequest ⟨σ, hσ⟩ fun τ hτ => ?_
  have hmodel := (satisfies_append.1 (Route.satisfies_secondRequest.1 hτ).1).1
  obtain ⟨paths, hrouting, hfollows⟩ := h.exists_routing hc hmodel
  rw [(h.value_terms hc hmodel hrouting hfollows).2.2]
  exact (aggregate_bounds hd fun _ => hrouting.length_le).1

end Best

namespace Corner

/-- A second search is wanted around the corner, and there is time for it. -/
def options : RouteOptions where
  minimizesBandwidth := true

/-- The best engine routes the flows around the corner twice. -/
lemma goes_twice : ∃ m first second routes better overrun left,
    (∀ d ∈ m.demands, 0 ≤ d) ∧
      Route.IsRefined Engine.best context options m first routes overrun left ∧
      Engine.best.answer (Route.secondRequest context options m first overrun left) = .ok second ∧
      first.status = .optimal ∧ second.status = .optimal ∧
      (route Engine.best context options).postings =
        Route.secondRequest context options m first overrun left ∧
      (route Engine.best context options).outcome = .ok ⟨.optimal, better⟩ := by
  obtain ⟨m, hm, hdemands⟩ := exists_model
  have hd : ∀ d ∈ m.demands, 0 ≤ d := by simp [hdemands]
  obtain ⟨first, second, routes, better, overrun, left, h, ha, hfeasible, hposted, houtcome⟩ :=
    Route.goes_twice (o := options) isProper rfl hm isRouting Engine.best_isHonest
      Engine.best_finds (by simp [context, traffic]) rfl fun a _ =>
        Route.exists_timeLeft_of_null rfl a.elapsed
  have hbuild : IsAssembled context (.int 128) (.int defaultMaxOverrun)
    (Route.built context options) m := h.isAssembled
  have hfirst := hbuild.best_first isProper hd h.answer h.feasible
  have hsecond := hbuild.best_second isProper hd ha hfeasible
  exact ⟨m, first, second, routes, better, overrun, left, hd, h, ha, hfirst, hsecond, hposted,
    hsecond ▸ houtcome⟩

end Corner

end NocRouting
