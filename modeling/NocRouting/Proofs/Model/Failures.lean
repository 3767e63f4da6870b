import NocRouting.Model.Build
import NocRouting.Proofs.Faults
import NocRouting.Proofs.Model.Draft

/-!
# Faults in building a model

Building a model fails where one of the drafts it is made of does.  Most of them compute with values
and fail with the faults of that; two of them find inconsistencies in the description as well.

* `Draft.failsOnly_bind` and the lemmas after it say what faults a draft fails with.
* `failsOnly_flowRouters` says so of looking up the ends of a flow, which may not be on routers.
* `RoutingModel.failsOnly_overrunCounters` says so of the counters, whose budgets cannot be worked
  out if hops are free.
-/

namespace NocRouting

open Fault (CoversValues)

namespace Draft

variable {ν α β : Type} {P : Fault → Prop}

lemma failsOnly_bind {d : Draft ν α} {f : α → Draft ν β} (hd : FailsOnly P d.outcome)
    (hf : ∀ a, d.outcome = .ok a → FailsOnly P (f a).outcome) :
    FailsOnly P (d >>= f).outcome := by
  cases h : d.outcome with
  | ok a =>
    rw [bind_of_ok h]
    exact hf a h
  | error fault =>
    rw [bind_of_error h]
    exact .error (hd fault h)

lemma failsOnly_mapM {f : α → Draft ν β} {as : List α}
    (h : ∀ a ∈ as, FailsOnly P (f a).outcome) : FailsOnly P (as.mapM f).outcome := by
  induction as with
  | nil =>
    rw [List.mapM_nil]
    exact .ok []
  | cons a as ih =>
    rw [List.mapM_cons]
    refine failsOnly_bind (h a List.mem_cons_self) fun b _ => ?_
    refine failsOnly_bind (ih fun a' ha' => h a' (List.mem_cons_of_mem a ha')) fun bs _ => ?_
    exact .ok (b :: bs)

lemma failsOnly_forEach {f : α → Draft ν β} {as : List α}
    (h : ∀ a ∈ as, FailsOnly P (f a).outcome) : FailsOnly P (forEach f as).outcome := by
  induction as with
  | nil => exact .ok []
  | cons a as ih =>
    refine failsOnly_bind (h a List.mem_cons_self) fun b _ => ?_
    refine failsOnly_bind (ih fun a' ha' => h a' (List.mem_cons_of_mem a ha')) fun bs _ => ?_
    exact .ok (b :: bs)

lemma failsOnly_discard {d : Draft ν α} (hd : FailsOnly P d.outcome) :
    FailsOnly P (discard d : Draft ν Unit).outcome := by
  show FailsOnly P (d >>= fun _ => pure ()).outcome
  exact failsOnly_bind hd fun _ _ => .ok ()

end Draft

/-! ### The ends of flows -/

section Ends

variable {t : Topology} {c : Context} {P : Fault → Prop} [CoversValues P]

lemma failsOnly_location {p : Placement} {block : Value} :
    FailsOnly (fun fault => P fault ∨ ∃ key, fault = .noEntry key) (p.location block) := by
  refine .bind ((failsOnly_asKey (P := P)).mono fun _ => .inl) fun key _ => ?_
  split
  · exact .pure _
  · exact .throw (.inr ⟨key, rfl⟩)

lemma failsOnly_routerAt {location : List Value} :
    FailsOnly (fun fault => P fault ∨ ∃ place, fault = .noPosition place)
      (t.routerAt location) := by
  have hfind : ∀ x y layer, FailsOnly (fun fault => P fault ∨ ∃ place, fault = .noPosition place)
      (Topology.routerAt.find t x y layer) := by
    intro x y layer
    refine .bind ((failsOnly_positionAsKey (P := P)).mono fun _ => .inl) fun p _ => ?_
    split
    · exact .pure _
    · exact .throw (.inr ⟨_, rfl⟩)
  unfold Topology.routerAt
  split
  · exact hfind _ _ _
  · exact hfind _ _ _
  · exact .throw (.inl CoversValues.mismatch)

/-- That a block is not placed, or not on a router, is an inconsistency. -/
lemma failsOnly_blockRouter (hunplaced : ∀ block, P (.configuration (.unplacedBlock block)))
    (hmisplaced : ∀ block location, P (.configuration (.misplacedBlock block location)))
    {block : Value} : FailsOnly P (c.blockRouter block) := by
  unfold Context.blockRouter
  split
  · exact .throw (hunplaced block)
  · next fault hplace hfault =>
    rcases failsOnly_location (P := P) _ hfault with hother | ⟨key, rfl⟩
    · exact .throw hother
    · exact absurd rfl (hplace key)
  · refine .bind failsOnly_asMembers fun location _ => ?_
    split
    · exact .throw (hmisplaced block location)
    · next result hplace =>
      intro fault hfault
      rcases failsOnly_routerAt (P := P) _ hfault with hother | ⟨place, rfl⟩
      · exact hother
      · exact absurd hfault (hplace place)

lemma failsOnly_flowRouters (hunplaced : ∀ block, P (.configuration (.unplacedBlock block)))
    (hmisplaced : ∀ block location, P (.configuration (.misplacedBlock block location)))
    {f : Flow} : FailsOnly P (c.flowRouters f) :=
  .bind (failsOnly_blockRouter hunplaced hmisplaced) fun _ _ =>
    .bind (failsOnly_blockRouter hunplaced hmisplaced) fun _ _ => .pure _

end Ends

namespace RoutingModel

variable {t : Topology} {P : Fault → Prop}

/-! ### Constraints -/

lemma failsOnly_isConstrained [CoversValues P] {f : Flow} : FailsOnly P f.isConstrained := by
  unfold Flow.isConstrained
  split
  · exact .pure _
  · exact .bind failsOnly_asNumber fun _ _ => .pure _

/-- A link and a router take no time together. -/
def HopsAreFree (link router : Value) : Prop :=
  ∃ l r hop, link.asNumber = .ok l ∧ router.asNumber = .ok r ∧
    Number.meeting (· + ·) l r = .ok hop ∧ hop.isZero = true

lemma failsOnly_hopBudget [CoversValues P] {link router latency : Value}
    (hfree : HopsAreFree link router → P (.configuration .freeHops)) :
    FailsOnly P (hopBudget link router latency) := by
  refine .bind failsOnly_asNumber fun l hl => ?_
  refine .bind failsOnly_asNumber fun r hr => ?_
  refine .bind failsOnly_meeting fun hop hhop => ?_
  refine .ite (fun hzero => .throw_bind (hfree ⟨l, r, hop, hl, hr, hhop, hzero⟩)) fun _ => ?_
  refine .bind failsOnly_asNumber fun most _ => ?_
  refine .bind failsOnly_meeting fun left _ => ?_
  split
  · exact failsOnly_floor
  · exact .throw CoversValues.tooLarge

lemma failsOnly_overrunCounters [CoversValues P] {maxOverrun : Value} {flows : List RoutedFlow}
    (hfree : HopsAreFree t.linkLatency t.routerLatency → P (.configuration .freeHops)) :
    FailsOnly P (overrunCounters t maxOverrun flows).outcome := by
  induction flows with
  | nil => exact .ok []
  | cons f flows ih =>
    refine Draft.failsOnly_bind failsOnly_isConstrained fun constrained _ => ?_
    cases constrained with
    | false => exact ih
    | true =>
      refine Draft.failsOnly_bind (failsOnly_hopBudget hfree) fun budget _ => ?_
      refine Draft.failsOnly_bind (d := liftM _) ?_ fun greatest _ => ?_
      · exact .bind failsOnly_asNumber fun _ _ => .pure _
      refine Draft.failsOnly_bind (.ok _) fun _ _ => ?_
      exact Draft.failsOnly_bind ih fun rest _ => .ok _

lemma failsOnly_congestionIndicators [CoversValues P] {numFlows : Nat} {demands : List Int}
    {resolution : Value} (h : demands.length < numFlows → P (.range .index)) :
    FailsOnly P (congestionIndicators t numFlows demands resolution).outcome := by
  refine Draft.failsOnly_discard (Draft.failsOnly_forEach fun l _ => ?_)
  refine Draft.failsOnly_bind (.ok _) fun _ _ => ?_
  by_cases hfew : demands.length < numFlows
  · rw [if_pos hfew]
    exact Draft.failsOnly_bind (.error (h hfew)) fun _ hu => by cases hu
  · rw [if_neg hfew]
    refine Draft.failsOnly_bind (.ok _) fun _ _ => ?_
    refine Draft.failsOnly_bind failsOnly_plus fun beyond _ => ?_
    exact .ok _

lemma failsOnly_routeHints [CoversValues P] {f : RoutedFlow} :
    FailsOnly P (routeHints t f).outcome := by
  unfold routeHints
  split
  · exact .ok _
  · refine Draft.failsOnly_bind (Draft.failsOnly_mapM fun _ _ => failsOnly_asKey) fun route _ => ?_
    exact Draft.failsOnly_bind (.ok _) fun _ _ => .ok _

end RoutingModel

end NocRouting
