import NocRouting.Proofs.Model.Assembly
import NocRouting.Proofs.Network.Displacement

/-!
# Progress on a grid

Where every link takes a single step in its direction, the constraints on the number of links at
each router already make the links of a flow add up to the displacement between its ends.  The
constraints on the progress of flows then demand nothing more.

* `degreesOf` are the constraints on the number of links of a flow at each router.
* `makesProgress_of_degrees` says that they are enough for the flow to make progress.
* `progress_redundant` says that the constraints on progress can be left out of a model.
-/

namespace NocRouting

open RoutingModel

/-- The constraints on the number of links of a flow at each router.  A flow that has nowhere to go
takes no links. -/
def degreesOf (t : Topology) (f : RoutedFlow) : List (Posting RoutingVar) :=
  if f.source = f.sink then unused (linkVars f.flow.id t.links)
  else degrees t f.flow.id f.source f.sink

variable {t : Topology} {σ : RoutingVar → Int} {f : RoutedFlow}

lemma satisfies_degreesOf_of_continuity (h : Satisfies σ (continuity t f)) :
    Satisfies σ (degreesOf t f) := by
  by_cases hends : f.source = f.sink
  · simpa only [degreesOf, continuity, hends, if_true] using h
  · rw [continuity_of_ne hends, satisfies_append] at h
    rw [degreesOf, if_neg hends]
    exact h.1

/-- Measuring the progress of a flow between two routers of a finished network does not fail. -/
lemma Topology.IsCharted.progress_outcome (ht : t.IsCharted)
    (hsource : f.source < t.routers.length) (hsink : f.sink < t.routers.length) :
    (progress t f).outcome = .ok () := by
  have ha := ht.compressedAt_eq (List.getElem?_eq_getElem hsource)
  have hb := ht.compressedAt_eq (List.getElem?_eq_getElem hsink)
  unfold progress
  split
  · rw [ha, hb]
    rfl
  · rfl

/-- On a grid, a flow makes progress if the number of its links at each router is right. -/
theorem makesProgress_of_degrees (ht : t.IsCharted) (hgrid : t.IsGridLike)
    (hsource : f.source < t.routers.length) (hsink : f.sink < t.routers.length)
    (htruth : IsTruthOn t σ f.flow.id) (h : Satisfies σ (degreesOf t f)) :
    t.MakesProgress f.source f.sink (t.taken σ f.flow.id) := by
  refine ht.makesProgress hsource hsink ?_ fun l hl =>
    ht.place_sink hgrid (Topology.taken_subset hl)
  by_cases hends : f.source = f.sink
  · rw [degreesOf, if_pos hends] at h
    have hnone : t.taken σ f.flow.id = [] := by
      refine (satisfies_continuity_of_eq hends).1 ?_
      simpa only [continuity, hends, if_true] using h
    rw [hnone]
    exact IsWalk.isBalanced hends
  · rw [degreesOf, if_neg hends, satisfies_degrees ht.reachable.isSound htruth] at h
    exact h.isBalanced hends

/-- On a grid, the constraints on the progress of a flow hold if those on the number of its links at
each router do. -/
lemma satisfies_progress_of_degrees (ht : t.IsCharted) (hgrid : t.IsGridLike)
    (hsource : f.source < t.routers.length) (hsink : f.sink < t.routers.length)
    (htruth : IsTruthOn t σ f.flow.id) (h : Satisfies σ (degreesOf t f)) :
    Satisfies σ (progress t f).postings := by
  by_cases hends : f.source = f.sink
  · rw [progress_of_eq hends]
    simp
  · rw [satisfies_progress htruth (ht.progress_outcome hsource hsink) hends]
    exact makesProgress_of_degrees ht hgrid hsource hsink htruth h

/-- The constraints on progress demand nothing that the rest of a model does not. -/
lemma IsAssembled.satisfies_iff_without_progress {c : Context} {resolution maxOverrun : Value}
    {ps : List (Posting RoutingVar)} {m : RoutingModel}
    (h : IsAssembled c resolution maxOverrun ps m) (ht : c.topology.IsCharted)
    (hgrid : c.topology.IsGridLike) : ∃ before after,
      ps = before ++ m.flows.flatMap (fun f => (RoutingModel.progress c.topology f).postings) ++
        after ∧
      ∀ σ, Satisfies σ ps ↔ Satisfies σ (before ++ after) := by
  obtain ⟨counters, indicators, -, -, hps⟩ := h.postings
  refine ⟨_, _, hps, fun σ => ?_⟩
  rw [hps]
  simp only [satisfies_append]
  refine ⟨fun h => ⟨h.1.1, h.2⟩, fun ⟨hbefore, hafter⟩ => ⟨⟨hbefore, ?_⟩, hafter⟩⟩
  obtain ⟨⟨⟨⟨hvariables, -⟩, -⟩, -⟩, hcontinuity⟩ := hbefore
  rw [satisfies_linkVariables] at hvariables
  rw [satisfies_flatMap] at hcontinuity ⊢
  intro f hf
  obtain ⟨hsource, hsink⟩ : f.source < c.topology.routers.length ∧
      f.sink < c.topology.routers.length := by
    obtain ⟨_, -, -, hends⟩ := exists_left_of_mem h.flows hf
    exact Context.flowRouters_lt ht.reachable.isSound hends
  exact satisfies_progress_of_degrees ht hgrid hsource hsink (hvariables f hf)
    (satisfies_degreesOf_of_continuity (hcontinuity f hf))

/-- Where links take single steps, the constraints on progress are redundant.  Truth values that get
the number of links of a flow right at each router make up the displacement between its ends, and a
model is satisfied exactly if it is without these constraints. -/
theorem progress_redundant (ht : t.IsCharted) (hgrid : t.IsGridLike) :
    (∀ (f : RoutedFlow) (σ : RoutingVar → Int), f.source < t.routers.length →
      f.sink < t.routers.length → IsTruthOn t σ f.flow.id → Satisfies σ (degreesOf t f) →
        (progress t f).outcome = .ok () ∧ Satisfies σ (progress t f).postings ∧
          t.MakesProgress f.source f.sink (t.taken σ f.flow.id)) ∧
    ∀ (c : Context) (resolution maxOverrun : Value) (ps : List (Posting RoutingVar))
      (m : RoutingModel), c.topology = t → build c resolution maxOverrun = ⟨ps, .ok m⟩ →
        ∃ before after,
          ps = before ++ m.flows.flatMap (fun f => (progress t f).postings) ++ after ∧
          ∀ σ, Satisfies σ ps ↔ Satisfies σ (before ++ after) := by
  constructor
  · intro f σ hsource hsink htruth h
    exact ⟨ht.progress_outcome hsource hsink,
      satisfies_progress_of_degrees ht hgrid hsource hsink htruth h,
      makesProgress_of_degrees ht hgrid hsource hsink htruth h⟩
  · rintro c resolution maxOverrun ps m rfl hbuild
    exact (isAssembled_of_build hbuild).satisfies_iff_without_progress ht hgrid

/-! ### Two layers -/

namespace Storeys

/-- Two routers side by side, and a third one above the second.  Two links lead along the row, and
links lead both ways between the layers. -/
def topology : Topology where
  linkBandwidth := .int 64
  linkLatency := .int 1
  routerLatency := .int 1
  routers := [⟨0, .text "a", .ofInts 0 0 0⟩, ⟨1, .text "b", .ofInts 3 0 0⟩,
    ⟨2, .text "c", .ofInts 3 0 1⟩]
  links := [⟨0, 0, 1, .number 0, .number 1, some .east, .int 64, .int 1⟩,
    ⟨1, 0, 1, .number 0, .number 1, some .east, .int 64, .int 1⟩,
    ⟨2, 1, 2, .number 1, .number 2, none, .int 64, .int 1⟩,
    ⟨3, 2, 1, .number 2, .number 1, none, .int 64, .int 1⟩]
  compressed := some [⟨0, 0, .int 0⟩, ⟨1, 0, .int 0⟩, ⟨1, 0, .int 1⟩]

lemma isCharted : topology.IsCharted where
  reachable := .finish (.addLink (.int 2) (.int 1) (.addLink (.int 1) (.int 2)
    (.addLink (.int 0) (.int 1) (.addLink (.int 0) (.int 1)
      (.addRouter (.text "c") (.ofInts 3 0 1) (.addRouter (.text "b") (.ofInts 3 0 0)
        (.addRouter (.text "a") (.ofInts 0 0 0) (.bare (.int 64) (.int 1) (.int 1))
        rfl) rfl) rfl) rfl) rfl) rfl) rfl) rfl
  built := rfl
  whole := by
    simp only [Topology.HasWholePositions, topology, List.mem_cons, List.not_mem_nil, or_false]
    rintro r (rfl | rfl | rfl) <;> exact ⟨rfl, rfl, rfl⟩

/-- A flow from the first router to the one above. -/
def flow : Flow := ⟨0, .text "p", .text "q", .int 40, .null, .null, []⟩

def context : Context where
  topology := topology
  flows := [flow]
  placement := ⟨[(.text "p", .list [.int 0, .int 0]), (.text "q", .list [.int 3, .int 0, .int 1])]⟩
  turnModel := .unrestricted

/-- The flow takes the second link along the row and the one upwards. -/
def assignment : RoutingVar → Int
  | .link 0 1 | .link 0 2 => 1
  | _ => 0

end Storeys

/-- Along the row and up: the step to the east is all that counts. -/
theorem storeys_progress_redundant : Storeys.topology.IsCharted ∧ Storeys.topology.IsGridLike ∧
    IsTruthOn Storeys.topology Storeys.assignment 0 ∧
    Satisfies Storeys.assignment (degreesOf Storeys.topology ⟨Storeys.flow, 0, 2⟩) ∧
    Storeys.topology.MakesProgress 0 2 (Storeys.topology.taken Storeys.assignment 0) ∧
    ∃ m, (build Storeys.context (.int 128) (.int 20)).outcome = .ok m ∧ ∃ before after,
      (build Storeys.context (.int 128) (.int 20)).postings =
        before ++ m.flows.flatMap (fun f => (progress Storeys.topology f).postings) ++ after ∧
      ∀ σ, Satisfies σ (build Storeys.context (.int 128) (.int 20)).postings ↔
        Satisfies σ (before ++ after) := by
  have hgrid : Storeys.topology.IsGridLike := by
    simp only [Topology.IsGridLike, Storeys.topology, List.mem_cons, List.not_mem_nil, or_false]
    rintro l (rfl | rfl | rfl | rfl) d ⟨⟩
    all_goals exact ⟨_, _, rfl, rfl, rfl⟩
  have htruth : IsTruthOn Storeys.topology Storeys.assignment 0 := by
    simp only [IsTruthOn, Storeys.topology, List.mem_cons, List.not_mem_nil, or_false]
    rintro l (rfl | rfl | rfl | rfl) <;> decide
  have hdegrees : Satisfies Storeys.assignment
      (degreesOf Storeys.topology ⟨Storeys.flow, 0, 2⟩) := by
    decide
  obtain ⟨m, hm, -⟩ : ∃ m, (build Storeys.context (.int 128) (.int 20)).outcome = .ok m ∧
      m.demands = [80] := Except.exists_of_toOption_map (by decide)
  have hredundant := progress_redundant Storeys.isCharted hgrid
  exact ⟨Storeys.isCharted, hgrid, htruth, hdegrees,
    (hredundant.1 ⟨Storeys.flow, 0, 2⟩ Storeys.assignment (by decide) (by decide) htruth
      hdegrees).2.2,
    m, hm, hredundant.2 Storeys.context (.int 128) (.int 20) _ m rfl (by rw [← hm])⟩

end NocRouting
