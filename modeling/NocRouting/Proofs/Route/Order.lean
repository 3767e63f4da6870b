import NocRouting.Proofs.Model.Outline
import NocRouting.Proofs.Route.Runs

/-!
# What happens when in a run

Building a model does not ask the engine to solve.  Values are read only while there is a solution
to read: after a request to solve that was answered with one, and before the next request.  Both
hold against every engine, whatever it answers.

* `RoutingModel.isBuilding_of_mem_build` says that building asks for no search.
* `Engine.HasSolution` says that there is a solution to read, and `Route.ReadsSolutions` watches
  over the steps of a run.
* `Route.readsSolutions` says that no run reads where there is nothing to read.
-/

namespace NocRouting

/-! ### Building -/

/-- The posting is not a request to solve. -/
def Posting.IsBuilding {ν : Type} (p : Posting ν) : Prop :=
  ∀ q, p ≠ .solve q

lemma Posting.IsDemand.isBuilding {ν : Type} {p : Posting ν} (h : p.IsDemand) : p.IsBuilding := by
  rintro q rfl
  exact h

namespace RoutingModel

/-- Building a model asks for no search, whether it can be built to the end or not. -/
theorem isBuilding_of_mem_build {c : Context} {resolution maxOverrun : Value} :
    ∀ p ∈ (build c resolution maxOverrun).postings, p.IsBuilding := by
  rw [build_eq]
  refine Draft.forall_mem_bind (fun p hp => (isDemand_of_mem_outline p hp).isBuilding) fun o => ?_
  refine Draft.forall_mem_bind (by simp [Draft.post, Posting.IsBuilding]) fun _ => ?_
  refine Draft.forall_mem_bind (Draft.forall_mem_forEach fun f _ p hp => ?_) fun _ => by simp
  obtain ⟨l, -, n, rfl⟩ := exists_of_mem_routeHints p hp
  simp [Posting.IsBuilding]

end RoutingModel

/-! ### Reading -/

/-- There is a solution to read: the last request to solve was answered with one. -/
def Engine.HasSolution {ν : Type} (e : Engine ν) (posted : List (Posting ν)) : Prop :=
  ∃ before q after a, posted = before ++ .solve q :: after ∧ (∀ p ∈ after, p.IsBuilding) ∧
    e.answer (before ++ [.solve q]) = .ok a ∧ a.status.isFeasible = true

namespace Route

/-- In some steps, which come after the given postings, values are read only while there is a
solution to read. -/
def ReadsSolutions (e : Engine RoutingVar) (posted : List (Posting RoutingVar)) :
    List RouteStep → Prop
  | [] => True
  | .posting p :: rest => ReadsSolutions e (posted ++ [p]) rest
  | .reading _ :: rest => e.HasSolution posted ∧ ReadsSolutions e posted rest
  | .note _ :: rest => ReadsSolutions e posted rest

section Reading

variable {e : Engine RoutingVar} {t : Topology} {m : RoutingModel} {o : RouteOptions}
  {posted : List (Posting RoutingVar)} {steps rest : List RouteStep}
  {first a : Answer RoutingVar} {routes : List (List Int)}

lemma hasSolution_of_answer {q : SearchParameters} (h : e.answer (posted ++ [.solve q]) = .ok a)
    (hfeasible : a.status.isFeasible = true) : e.HasSolution (posted ++ [.solve q]) :=
  ⟨posted, q, [], a, rfl, by simp, h, hfeasible⟩

/-- Steps after steps come after what was posted in these. -/
lemma readsSolutions_append : ReadsSolutions e posted (steps ++ rest) ↔
    ReadsSolutions e posted steps ∧
      ReadsSolutions e (posted ++ steps.filterMap RouteStep.posting?) rest := by
  induction steps generalizing posted with
  | nil => simp [ReadsSolutions]
  | cons s steps ih =>
    cases s with
    | posting p =>
      show ReadsSolutions e (posted ++ [p]) (steps ++ rest) ↔ ReadsSolutions e (posted ++ [p]) steps ∧
        ReadsSolutions e (posted ++ p :: steps.filterMap RouteStep.posting?) rest
      rw [ih, List.append_assoc]
      rfl
    | reading v => exact (and_congr_right fun _ => ih).trans and_assoc.symm
    | note n => exact ih

lemma readsSolutions_bind {α β : Type} {s : Stage α} {f : α → Stage β}
    (hs : ReadsSolutions e posted s.steps)
    (hf : ∀ a, s.outcome = .ok a → ReadsSolutions e (posted ++ s.postings) (f a).steps) :
    ReadsSolutions e posted (s >>= f).steps := by
  cases h : s.outcome with
  | ok a =>
    rw [Stage.bind_of_ok h]
    exact readsSolutions_append.2 ⟨hs, hf a h⟩
  | error fault =>
    rw [Stage.bind_of_error h]
    exact hs

/-- Where there is a solution, anything can be read before something is posted. -/
lemma readsSolutions_of_postings_eq_nil (h : e.HasSolution posted)
    (hsteps : steps.filterMap RouteStep.posting? = []) : ReadsSolutions e posted steps := by
  induction steps with
  | nil => trivial
  | cons s steps ih =>
    cases s with
    | posting p => cases hsteps
    | reading v => exact ⟨h, ih hsteps⟩
    | note n => exact ih hsteps

lemma readsSolutions_bind_of_isSilent {α β : Type} {s : Stage α} {f : α → Stage β}
    (h : e.HasSolution posted) (hs : s.IsSilent)
    (hf : ∀ a, s.outcome = .ok a → ReadsSolutions e posted (f a).steps) :
    ReadsSolutions e posted (s >>= f).steps := by
  refine readsSolutions_bind (readsSolutions_of_postings_eq_nil h hs) fun a ha => ?_
  rw [hs, List.append_nil]
  exact hf a ha

lemma readsSolutions_map_posting (ps : List (Posting RoutingVar)) :
    ReadsSolutions e posted (ps.map .posting) := by
  induction ps generalizing posted with
  | nil => trivial
  | cons p ps ih => exact ih

lemma readsSolutions_noteAll {α : Type} {f : Unit → Stage α} (ns : List LogEntry)
    (h : ReadsSolutions e posted (f ()).steps) :
    ReadsSolutions e posted (Stage.noteAll ns >>= f).steps := by
  induction ns with
  | nil => exact h
  | cons n ns ih => exact ih

lemma readsSolutions_finish {status : Status} {elapsed : Float} :
    ReadsSolutions e posted (finish status routes elapsed).steps :=
  trivial

lemma readsSolutions_refineFrom {search : SearchParameters} {limits : List (Posting RoutingVar)} :
    ReadsSolutions e posted (refineFrom e t m posted first routes search limits).steps := by
  unfold refineFrom
  refine readsSolutions_bind (readsSolutions_map_posting _) fun _ htake => ?_
  rw [Stage.postings_post_of_ok htake]
  refine readsSolutions_bind trivial fun second hanswer => ?_
  split
  · next hfeasible =>
    exact readsSolutions_bind_of_isSilent (hasSolution_of_answer hanswer hfeasible)
      (isSilent_readRoutes second m.flows) fun better _ => readsSolutions_finish
  · exact readsSolutions_noteAll _ readsSolutions_finish

lemma readsSolutions_refine {search : SearchParameters} (h : e.HasSolution posted) :
    ReadsSolutions e posted (refine e t m posted first routes search).steps := by
  unfold refine
  refine readsSolutions_bind_of_isSilent h (isSilent_readOverrun _ _ _) fun overrun _ => ?_
  refine readsSolutions_bind_of_isSilent h (isSilent_readCongested _) fun congested _ => ?_
  refine readsSolutions_bind_of_isSilent h (isSilent_readHints _) fun hints _ => ?_
  exact readsSolutions_noteAll _ readsSolutions_refineFrom

lemma readsSolutions_continueFrom (h : e.HasSolution posted) :
    ReadsSolutions e posted (continueFrom e t m o posted first routes).steps := by
  unfold continueFrom
  split
  · refine readsSolutions_bind_of_isSilent h (Stage.isSilent_lift _) fun left _ => ?_
    split
    · exact readsSolutions_noteAll _ readsSolutions_finish
    · exact readsSolutions_refine h
  · exact readsSolutions_finish

lemma readsSolutions_search : ReadsSolutions e posted (search e t m o posted).steps := by
  unfold search
  refine readsSolutions_bind trivial fun first hanswer => ?_
  split
  · next hfeasible =>
    have hsolution := hasSolution_of_answer hanswer hfeasible
    exact readsSolutions_bind_of_isSilent hsolution (isSilent_readRoutes first m.flows)
      fun routes _ => readsSolutions_continueFrom hsolution
  · exact readsSolutions_noteAll _ trivial

/-- Whatever the engine answers, no run reads values where there is no solution. -/
theorem readsSolutions (e : Engine RoutingVar) (c : Context) (o : RouteOptions) :
    ReadsSolutions e [] (route e c o).steps := by
  unfold route
  split
  · exact readsSolutions_noteAll _ trivial
  · refine readsSolutions_bind (readsSolutions_map_posting _) fun _ htake => ?_
    rw [Stage.postings_post_of_ok htake]
    refine readsSolutions_bind trivial fun m _ => ?_
    rw [Stage.isSilent_lift, List.append_nil]
    exact readsSolutions_noteAll _ readsSolutions_search

end Reading

end Route

end NocRouting
