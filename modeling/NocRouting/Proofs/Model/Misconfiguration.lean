import NocRouting.Proofs.Model.Assembly
import NocRouting.Proofs.Model.Failures

/-!
# Descriptions that cannot be routed

Building a model finds two kinds of inconsistencies in a description: a flow may lead from or to a
block that is not placed on a router, and hops may take no time although latencies are limited.  The
ends of all flows are looked up first, so inconsistencies of the first kind are found before
anything is posted.  Budgets are worked out later, when the variables of the flows are there.

* `Fault.IsForeign` are the faults that are no inconsistencies of a description.
* `failsOnly_foreign_rescale` says that measuring demands fails with no others, whatever the figures.
* `overrunCounters_misconfigured` says that free hops are found before any counter is posted.
* `build_misconfigured` says which inconsistencies are found, and what has been posted by then.
-/

namespace NocRouting

open RoutingModel
open Fault (CoversValues)

/-- The fault is no inconsistency of a description. -/
def Fault.IsForeign (fault : Fault) : Prop :=
  ∀ cause, fault ≠ .configuration cause

open Fault (IsForeign)

instance : CoversValues IsForeign where
  mismatch := by simp [IsForeign]
  refused := by simp [IsForeign]
  tooLarge := by simp [IsForeign]

/-- A block is not placed, or placed where there is no router. -/
inductive ConfigurationFault.IsMisplacement : ConfigurationFault → Prop
  | unplaced (block : Value) : IsMisplacement (.unplacedBlock block)
  | misplaced (block : Value) (location : List Value) :
    IsMisplacement (.misplacedBlock block location)

/-! ### Demands -/

section Demands

variable {v w : Value} {demands : List Value} {capacity resolution : Value}

lemma failsOnly_asIndex {P : Fault → Prop} [CoversValues P] : FailsOnly P v.asIndex := by
  unfold Value.asIndex
  split
  · exact .ok _
  · exact .ok _
  · exact .error CoversValues.mismatch

lemma failsOnly_foreign_copies {α : Type} {fault : Fault} {count : Int} {items : List α}
    (h : fault.IsForeign) : FailsOnly IsForeign (Value.copies fault count items) := by
  refine .ite (fun _ => .ok _) fun _ => .ite (fun _ => .error h) fun _ => ?_
  exact .ite (fun _ => .error (by simp [IsForeign])) fun _ => .ok _

lemma failsOnly_foreign_repeated {count : Int} : FailsOnly IsForeign (v.repeated count) := by
  refine .ite (fun _ => .error CoversValues.tooLarge) fun _ => ?_
  split
  · exact .map (failsOnly_foreign_copies CoversValues.tooLarge)
  · exact .map (failsOnly_foreign_copies (by simp [IsForeign]))
  · exact .error CoversValues.mismatch

lemma failsOnly_foreign_times : FailsOnly IsForeign (v.times w) := by
  refine .ite (fun _ => .bind failsOnly_asIndex fun _ _ => failsOnly_foreign_repeated) fun _ => ?_
  refine .ite (fun _ => .bind failsOnly_asIndex fun _ _ => failsOnly_foreign_repeated) fun _ => ?_
  exact failsOnly_combined

lemma failsOnly_foreign_quotient : FailsOnly IsForeign (Figures.quotient v w) := by
  refine .bind failsOnly_asFloat fun x _ => .bind failsOnly_asFloat fun y _ => ?_
  exact .ite (fun _ => .throw_bind (by simp [IsForeign])) fun _ => .pure _

lemma failsOnly_foreign_figuresOfValue : FailsOnly IsForeign (Figures.ofValue v) := by
  have hrows : ∀ rows, FailsOnly IsForeign (Figures.ofRows rows) := by
    intro rows
    refine .ite (fun _ => .ok _) fun _ => .ite (fun _ => .ok _) fun _ => ?_
    exact .map (Block.failsOnly_mapM fun _ => failsOnly_asFloat)
  unfold Figures.ofValue
  split
  · exact .bind Block.failsOnly_ofValues fun rows _ => hrows rows
  · exact .bind failsOnly_numberAsFloat fun _ _ => .pure _
  · exact hrows _

lemma failsOnly_foreign_combine {double : Float → Float → Float}
    {value : Value → Value → Except Fault Value} (h : ∀ v w, FailsOnly IsForeign (value v w))
    (a b : Figures) : FailsOnly IsForeign (Figures.combine double value a b) := by
  unfold Figures.combine
  split
  · exact .bind Block.failsOnly_zip fun _ _ => .pure _
  · exact .error (by simp [IsForeign])
  · exact .error (by simp [IsForeign])
  · refine .bind Block.failsOnly_zip fun pairs _ => ?_
    exact .bind (Block.failsOnly_mapM fun p => h p.1 p.2) fun _ _ => .pure _

lemma failsOnly_foreign_floors (figures : Figures) : FailsOnly IsForeign figures.floors := by
  unfold Figures.floors
  split
  · exact .bind Block.failsOnly_column fun _ _ => .mapM fun _ _ => failsOnly_floor
  · refine .bind (Block.failsOnly_mapM fun v => ?_) fun _ _ => Block.failsOnly_column
    exact .bind failsOnly_asNumber fun _ _ => failsOnly_floor

/-- Measuring demands finds no inconsistencies, whatever the figures are. -/
lemma failsOnly_foreign_rescale : FailsOnly IsForeign (rescale demands capacity resolution) := by
  refine .ite (fun _ => .pure _) fun _ => ?_
  refine .bind (.mapM fun _ _ => failsOnly_asFloat) fun doubles _ => ?_
  split
  · refine .bind failsOnly_numberAsFloat fun x _ => .bind failsOnly_numberAsFloat fun r _ => ?_
    exact .mapM fun _ _ => failsOnly_floor
  · refine .bind failsOnly_foreign_figuresOfValue fun given _ => ?_
    refine .bind (failsOnly_foreign_combine (fun _ _ => failsOnly_foreign_quotient) _ _)
      fun shares _ => ?_
    refine .bind failsOnly_foreign_figuresOfValue fun units _ => ?_
    refine .bind (failsOnly_foreign_combine (fun _ _ => failsOnly_foreign_times) _ _)
      fun units _ => ?_
    exact failsOnly_foreign_floors _

end Demands

/-! ### Building -/

section Building

variable {c : Context} {t : Topology} {ps : List (Posting RoutingVar)} {cause : ConfigurationFault}

lemma ne_misconfigured {α : Type} {d : RoutingDraft α} (h : FailsOnly IsForeign d.outcome) :
    d ≠ ⟨ps, .error (.configuration cause)⟩ := by
  rintro rfl
  exact h _ rfl cause rfl

/-- An inconsistency in the ends of flows is a misplacement, and nothing is posted by then. -/
lemma routedFlows_misconfigured {flows : List Flow} (h : (flows.mapM fun f => do
    let (source, sink) ← c.flowRouters f
    return RoutedFlow.mk f source sink : RoutingDraft (List RoutedFlow)) =
      ⟨ps, .error (.configuration cause)⟩) : ps = [] ∧ cause.IsMisplacement := by
  constructor
  · rw [show ps = _ from (congrArg Draft.postings h).symm, List.eq_nil_iff_forall_not_mem]
    exact Draft.forall_mem_mapM fun f _ => Draft.forall_mem_bind (by simp) fun _ => by simp
  · let P (fault : Fault) : Prop :=
      ∀ cause, fault = .configuration cause → cause.IsMisplacement
    have : CoversValues P := ⟨by simp [P], by simp [P], by simp [P]⟩
    refine Draft.failsOnly_mapM (P := P) (fun f _ => Draft.failsOnly_bind (d := liftM _)
      (failsOnly_flowRouters (fun block => ?_) fun block location => ?_) fun ends _ => .ok _)
      _ (congrArg Draft.outcome h) cause rfl
    · rintro _ ⟨⟩
      exact .unplaced block
    · rintro _ ⟨⟩
      exact .misplaced block location

lemma hopBudget_of_free {link router latency : Value} (h : HopsAreFree link router) :
    hopBudget link router latency = .error (.configuration .freeHops) := by
  obtain ⟨l, r, hop, hl, hr, hhop, hzero⟩ := h
  simp only [hopBudget, hl, hr, hhop, hzero, Except.ok_bind, if_true]
  rfl

lemma hopBudget_misconfigured {link router latency : Value}
    (h : hopBudget link router latency = .error (.configuration cause)) : cause = .freeHops := by
  let P (fault : Fault) : Prop := ∀ cause, fault = .configuration cause → cause = .freeHops
  have : CoversValues P := ⟨by simp [P], by simp [P], by simp [P]⟩
  have hfree : FailsOnly P (hopBudget link router latency) := failsOnly_hopBudget (by simp [P])
  exact hfree _ h cause rfl

/-- Free hops are found before any counter is posted: at the first flow whose latency is limited. -/
lemma overrunCounters_misconfigured {maxOverrun : Value} {flows : List RoutedFlow}
    (h : overrunCounters t maxOverrun flows = ⟨ps, .error (.configuration cause)⟩) :
    ps = [] ∧ cause = .freeHops := by
  induction flows generalizing ps with
  | nil => cases h
  | cons f flows ih =>
    rw [overrunCounters] at h
    rcases Draft.bind_eq_error.1 h with hfault | ⟨constrained, _, _, hconstrained, hrest, rfl⟩
    · exact absurd hfault (ne_misconfigured failsOnly_isConstrained)
    obtain ⟨rfl, -⟩ := Draft.lift_eq_ok.1 hconstrained
    cases constrained with
    | false => exact ih hrest
    | true =>
      rcases Draft.bind_eq_error.1 hrest with hfault | ⟨budget, _, _, hbudget, hlast, rfl⟩
      · obtain ⟨rfl, hbudget⟩ := Draft.lift_eq_error.1 hfault
        exact ⟨rfl, hopBudget_misconfigured hbudget⟩
      · -- the budget of this flow shows that hops take time
        have htime : ¬ HopsAreFree t.linkLatency t.routerLatency := by
          intro hfree
          simp [hopBudget_of_free hfree] at hbudget
        refine absurd hlast (ne_misconfigured ?_)
        refine Draft.failsOnly_bind (d := liftM _) ?_ fun greatest _ => ?_
        · exact .bind failsOnly_asNumber fun _ _ => .pure _
        refine Draft.failsOnly_bind (.ok _) fun _ _ => ?_
        refine Draft.failsOnly_bind (failsOnly_overrunCounters fun hfree => absurd hfree htime)
          fun rest _ => .ok _

lemma failsOnly_foreign_compressedAt {index : Value} :
    FailsOnly IsForeign (t.compressedAt index) := by
  unfold Topology.compressedAt
  split
  · exact .throw (by simp [IsForeign])
  · refine .bind failsOnly_asIndex fun i _ => .bind ?_ fun k _ => ?_
    · exact .ite (fun _ => .ok _) fun _ => .error (by simp [IsForeign])
    · split
      · exact .pure _
      · exact .throw (by simp [IsForeign])

/-- Measuring progress finds no inconsistencies. -/
lemma failsOnly_foreign_progress {f : RoutedFlow} :
    FailsOnly IsForeign (progress t f).outcome := by
  unfold progress
  split
  · refine Draft.failsOnly_bind failsOnly_foreign_compressedAt fun a _ => ?_
    exact Draft.failsOnly_bind failsOnly_foreign_compressedAt fun b _ => .ok _
  · exact .ok _

/-- If building a model finds an inconsistency, it has posted nothing, unless hops are free.  In
that case it has created the variables of the flows on the links, and nothing else. -/
theorem build_misconfigured {resolution maxOverrun : Value}
    (h : build c resolution maxOverrun = ⟨ps, .error (.configuration cause)⟩) :
    ps = [] ∧ cause.IsMisplacement ∨
      cause = .freeHops ∧ ∃ flows, List.Forall₂ (fun f g => g.flow = f ∧
        c.flowRouters f = .ok (g.source, g.sink)) c.flows flows ∧
        ps = linkVariables c.topology flows := by
  rw [build] at h
  rcases Draft.bind_eq_error.1 h with hfault | ⟨flows, _, _, hflows, h₁, rfl⟩
  · exact .inl (routedFlows_misconfigured hfault)
  obtain ⟨rfl, hrouted⟩ := routedFlows_eq_ok hflows
  rcases Draft.bind_eq_error.1 h₁ with hfault | ⟨demands, _, _, hdemands, h₂, rfl⟩
  · exact absurd hfault (ne_misconfigured failsOnly_foreign_rescale)
  obtain ⟨rfl, -⟩ := Draft.lift_eq_ok.1 hdemands
  rcases Draft.bind_eq_error.1 h₂ with hfault | ⟨_, _, _, hvariables, h₃, rfl⟩
  · exact absurd hfault (ne_misconfigured (.ok _))
  obtain rfl := Draft.postAll_eq_ok.1 hvariables
  rcases Draft.bind_eq_error.1 h₃ with hfault | ⟨budgets, _, _, -, h₄, rfl⟩
  · obtain ⟨rfl, rfl⟩ := overrunCounters_misconfigured hfault
    exact .inr ⟨rfl, flows, hrouted, by simp⟩
  · -- nothing that comes later can find an inconsistency
    refine absurd h₄ (ne_misconfigured ?_)
    refine Draft.failsOnly_bind
      (failsOnly_congestionIndicators fun _ => by simp [IsForeign]) fun _ _ => ?_
    refine Draft.failsOnly_bind (.ok _) fun _ _ => Draft.failsOnly_bind (.ok _) fun _ _ => ?_
    refine Draft.failsOnly_bind (Draft.failsOnly_discard
      (Draft.failsOnly_forEach fun f _ => failsOnly_foreign_progress)) fun _ _ => ?_
    refine Draft.failsOnly_bind (.ok _) fun _ _ => ?_
    refine Draft.failsOnly_bind
      (Draft.failsOnly_forEach fun f _ => failsOnly_routeHints) fun hinted _ => .ok _

end Building

/-! ### Two routers -/

namespace Instant

/-- Two routers and a link from one to the other.  Neither routers nor links take any time. -/
def topology : Topology where
  linkBandwidth := .int 64
  linkLatency := .int 0
  routerLatency := .int 0
  routers := [⟨0, .text "a", .ofInts 0 0 0⟩, ⟨1, .text "b", .ofInts 1 0 0⟩]
  links := [⟨0, 0, 1, .number 0, .number 1, some .east, .int 64, .int 0⟩]
  compressed := some [⟨0, 0, .int 0⟩, ⟨1, 0, .int 0⟩]

/-- A flow along the link whose latency is limited, with a placement of its ends. -/
def context (entries : List (Value × Value)) : Context where
  topology := topology
  flows := [⟨0, .text "p", .text "q", .int 40, .int 5, .null, []⟩]
  placement := ⟨entries⟩
  turnModel := .unrestricted

lemma isProper (entries : List (Value × Value)) : (context entries).IsProper where
  topology := .finish (.addLink (.int 0) (.int 1) (.addRouter (.text "b") (.ofInts 1 0 0)
    (.addRouter (.text "a") (.ofInts 0 0 0) (.bare (.int 64) (.int 0) (.int 0)) rfl) rfl) rfl) rfl
  flows := .add ⟨.text "p", .text "q", .int 40, .int 5, .null, .list []⟩ .empty rfl

/-- One end of the flow is placed, the other one is not. -/
def half : List (Value × Value) :=
  [(.text "p", .list [.int 0, .int 0])]

/-- Both ends of the flow are placed. -/
def both : List (Value × Value) :=
  [(.text "p", .list [.int 0, .int 0]), (.text "q", .list [.int 1, .int 0])]

end Instant

/-- An end that is not placed is found before anything is posted. -/
theorem instant_build_misconfigured :
    (build (Instant.context Instant.half) (.int 128) (.int 20)).outcome =
      .error (.configuration (.unplacedBlock (.text "q"))) ∧
    (build (Instant.context Instant.half) (.int 128) (.int 20)).postings = [] := by
  have h : build (Instant.context Instant.half) (.int 128) (.int 20) =
      ⟨(build (Instant.context Instant.half) (.int 128) (.int 20)).postings,
        .error (.configuration (.unplacedBlock (.text "q")))⟩ := rfl
  refine ⟨rfl, ((build_misconfigured h).resolve_right ?_).1⟩
  rintro ⟨⟨⟩, -⟩

/-- With both ends placed, free hops are found when the variable of the flow is there. -/
theorem instant_build_posts : (Instant.context Instant.both).IsProper ∧
    build (Instant.context Instant.both) (.int 128) (.int 20) =
      ⟨[.newBool (.link 0 0)], .error (.configuration .freeHops)⟩ :=
  ⟨Instant.isProper _, rfl⟩

end NocRouting
