import NocRouting.Proofs.Model.Assembly
import NocRouting.Proofs.Model.Failures
import NocRouting.Proofs.Network.Mesh

/-!
# Building the model of a described problem

Building the routing model of a problem fails with an ordinary fault, if the bandwidth of links and
the resolution are numbers.  The one resolution that is no number is the empty list, which the mark
`--` leaves in place of a choice: it makes no units of any demand, so that there may be fewer demands
than flows.

* `Context.IsDescribed` says what holds of the context of a problem that was described.
* `RoutingModel.build_eq_error` says with what faults building its model fails.
-/

namespace NocRouting

open Fault (IsOrdinary CoversValues)

/-! ### Demands -/

section Demands

variable {capacity resolution : Value} {demands : List Value}

lemma failsOnly_floors {rows : Block Float} :
    FailsOnly IsOrdinary (Figures.floors (.doubles rows)) :=
  .bind Block.failsOnly_column fun _ _ => .mapM fun _ _ => failsOnly_floor

/-- A capacity that is a number is a single double. -/
lemma failsOnly_figuresOfValue (hcapacity : ∃ n, capacity.number? = some n) :
    FailsOnly IsOrdinary (Figures.ofValue capacity) ∧
      ∀ figures, Figures.ofValue capacity = .ok figures → ∃ rows, figures = .doubles rows := by
  cases capacity with
  | number n =>
    refine ⟨.bind failsOnly_numberAsFloat fun _ _ => .pure _, ?_⟩
    intro figures h
    obtain ⟨x, -, hpure⟩ := Except.bind_eq_ok.1 h
    obtain rfl := Except.pure_eq_ok.1 hpure
    exact ⟨_, rfl⟩
  | bool b =>
    have hrows : Figures.ofValue (.bool b) =
        ((Block.single (Value.bool b)).mapM (·.asFloat)).map .doubles := by
      simp [Figures.ofValue, Figures.ofRows, Block.single, Figures.isLoose, Value.isText]
    rw [hrows]
    refine ⟨.map (Block.failsOnly_mapM fun _ => failsOnly_asFloat), ?_⟩
    intro figures h
    obtain ⟨rows, -, rfl⟩ := Except.map_eq_ok.1 h
    exact ⟨rows, rfl⟩
  | _ => obtain ⟨n, hn⟩ := hcapacity; cases hn

/-- Two sorts of rows of doubles make rows of doubles, if they match. -/
lemma failsOnly_combine {double : Float → Float → Float} {value : Value → Value → Except Fault Value}
    {a b : Block Float} :
    FailsOnly IsOrdinary (Figures.combine double value (.doubles a) (.doubles b)) ∧
      ∀ figures, Figures.combine double value (.doubles a) (.doubles b) = .ok figures →
        ∃ rows, figures = .doubles rows := by
  refine ⟨.bind Block.failsOnly_zip fun _ _ => .pure _, ?_⟩
  intro figures h
  obtain ⟨pairs, -, hpure⟩ := Except.bind_eq_ok.1 h
  obtain rfl := Except.pure_eq_ok.1 hpure
  exact ⟨_, rfl⟩

lemma failsOnly_figuresRescale {demands : List Float}
    (hcapacity : ∃ n, capacity.number? = some n) :
    FailsOnly IsOrdinary (Figures.rescale demands capacity (.list [])) := by
  obtain ⟨hfigures, hdoubles⟩ := failsOnly_figuresOfValue hcapacity
  have hnothing : Figures.ofValue (.list []) = .ok (.doubles ⟨[0], #[]⟩) := by
    have hrows : Block.ofValues [] = .ok ⟨[0], #[]⟩ := rfl
    have hnone : ((⟨[0], #[]⟩ : Block Value).mapM (·.asFloat)) = .ok ⟨[0], #[]⟩ := rfl
    rw [Figures.ofValue, hrows, Except.ok_bind, Figures.ofRows, hnone]
    simp [Except.map]
  refine .bind hfigures fun figures h => ?_
  obtain ⟨given, rfl⟩ := hdoubles figures h
  refine .bind failsOnly_combine.1 fun shares h => ?_
  obtain ⟨rows, rfl⟩ := failsOnly_combine.2 shares h
  rw [hnothing, Except.ok_bind]
  refine .bind failsOnly_combine.1 fun units h => ?_
  obtain ⟨rows', rfl⟩ := failsOnly_combine.2 units h
  exact failsOnly_floors

/-- A resolution as a command line chooses it: a whole number, or nothing. -/
def Value.IsChosen (v : Value) : Prop :=
  (∃ n, v = .int n) ∨ v = .list []

lemma failsOnly_rescale (hcapacity : ∃ n, capacity.number? = some n)
    (hresolution : resolution.IsChosen) :
    FailsOnly IsOrdinary (rescale demands capacity resolution) := by
  refine .ite (fun _ => .pure _) fun _ => ?_
  refine .bind (.mapM fun _ _ => failsOnly_asFloat) fun doubles _ => ?_
  obtain ⟨c, hc⟩ := hcapacity
  rcases hresolution with ⟨n, rfl⟩ | rfl
  · rw [hc]
    refine .bind failsOnly_numberAsFloat fun x _ => ?_
    refine .bind failsOnly_numberAsFloat fun r _ => ?_
    exact .mapM fun _ _ => failsOnly_floor
  · rw [hc]
    exact failsOnly_figuresRescale ⟨c, hc⟩

/-- Measured in numbers, there are as many demands as before. -/
lemma length_of_rescale (hcapacity : ∃ n, capacity.number? = some n) {n : Int} {units : List Int}
    (h : rescale demands capacity (.int n) = .ok units) : units.length = demands.length := by
  obtain ⟨c, hc⟩ := hcapacity
  unfold rescale at h
  split at h
  · next hempty =>
    obtain rfl := Except.pure_eq_ok.1 h
    rw [List.isEmpty_iff.1 hempty]
    rfl
  · obtain ⟨doubles, hdoubles, h⟩ := Except.bind_eq_ok.1 h
    rw [hc] at h
    obtain ⟨x, -, h⟩ := Except.bind_eq_ok.1 h
    obtain ⟨r, -, h⟩ := Except.bind_eq_ok.1 h
    rw [← (Except.mapM_eq_ok.1 h).length_eq, (Except.mapM_eq_ok.1 hdoubles).length_eq]

end Demands

/-! ### Progress -/

lemma RoutingModel.failsOnly_progress {t : Topology} {P : Fault → Prop} (ht : t.IsCharted) {f : RoutedFlow}
    (hsource : f.source < t.routers.length) (hsink : f.sink < t.routers.length) :
    FailsOnly P (progress t f).outcome := by
  have hplace : ∀ {i}, i < t.routers.length → FailsOnly P (t.compressedAt (.int i)) := by
    intro i hi
    rw [ht.compressedAt_eq (List.getElem?_eq_getElem hi)]
    exact .ok _
  unfold progress
  split
  · refine Draft.failsOnly_bind (hplace hsource) fun a _ => ?_
    exact Draft.failsOnly_bind (hplace hsink) fun b _ => .ok _
  · exact .ok _

/-! ### The model -/

/-- The context of a problem that was described: its network is finished, with routers at whole
positions, and the bandwidth of its links is a number. -/
structure Context.IsDescribed (c : Context) : Prop where
  charted : c.topology.IsCharted
  flows : c.flows.Reachable
  linkBandwidth : ∃ n, c.topology.linkBandwidth.number? = some n

lemma Context.IsDescribed.isProper {c : Context} (h : c.IsDescribed) : c.IsProper :=
  ⟨h.charted.reachable, h.flows⟩

/-- Building a model fails with an ordinary fault, unless there is no resolution. -/
theorem RoutingModel.build_eq_error {c : Context} {resolution maxOverrun : Value} {fault : Fault}
    (hc : c.IsDescribed) (hresolution : resolution.IsChosen)
    (h : (build c resolution maxOverrun).outcome = .error fault) :
    IsOrdinary fault ∨ (∃ cause, fault = .range cause) ∧ resolution = .list [] := by
  revert fault
  let P (fault : Fault) : Prop :=
    IsOrdinary fault ∨ (∃ cause, fault = .range cause) ∧ resolution = .list []
  have hP : ∀ fault, IsOrdinary fault → P fault := fun _ => .inl
  have : CoversValues P := ⟨hP _ isOrdinary_mismatch, fun _ => hP _ isOrdinary_refused,
    hP _ isOrdinary_tooLarge⟩
  show FailsOnly P (build c resolution maxOverrun).outcome
  have hsound := hc.charted.reachable.isSound
  refine Draft.failsOnly_bind (Draft.failsOnly_mapM fun f _ => ?_) fun flows hflows => ?_
  · exact Draft.failsOnly_bind (failsOnly_flowRouters (fun _ => hP _ isOrdinary_configuration)
      fun _ _ => hP _ isOrdinary_configuration) fun ends _ => .ok _
  obtain ⟨-, hrouted⟩ := @routedFlows_eq_ok c _ flows (by rw [← hflows])
  refine Draft.failsOnly_bind (d := liftM _)
    ((failsOnly_rescale hc.linkBandwidth hresolution).mono hP) fun demands hdemands => ?_
  refine Draft.failsOnly_bind (.ok _) fun _ _ => ?_
  refine Draft.failsOnly_bind
    (failsOnly_overrunCounters fun _ => hP _ isOrdinary_configuration) fun budgets _ => ?_
  refine Draft.failsOnly_bind (failsOnly_congestionIndicators ?_) fun _ _ => ?_
  · -- there is a demand for every flow, if there is a resolution
    intro hfew
    rcases hresolution with ⟨n, rfl⟩ | rfl
    · have hlength := length_of_rescale hc.linkBandwidth hdemands
      rw [List.length_map, hrouted.length_eq] at hlength
      omega
    · exact .inr ⟨⟨_, rfl⟩, rfl⟩
  refine Draft.failsOnly_bind (.ok _) fun _ _ => ?_
  refine Draft.failsOnly_bind (.ok _) fun _ _ => ?_
  refine Draft.failsOnly_bind
    (Draft.failsOnly_discard (Draft.failsOnly_forEach fun g hg => ?_)) fun _ _ => ?_
  · obtain ⟨f, -, -, hends⟩ := exists_left_of_mem hrouted hg
    obtain ⟨hsource, hsink⟩ := Context.flowRouters_lt hsound hends
    exact failsOnly_progress hc.charted hsource hsink
  refine Draft.failsOnly_bind (.ok _) fun _ _ => ?_
  refine Draft.failsOnly_bind
    (Draft.failsOnly_forEach fun g _ => failsOnly_routeHints) fun hinted _ => ?_
  exact .ok _

end NocRouting
