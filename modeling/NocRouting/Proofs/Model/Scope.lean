import NocRouting.Proofs.Model.Creation
import NocRouting.Proofs.Model.Hints
import NocRouting.Proofs.Model.Names

/-!
# Where variables occur

Building a model creates variables and posts constraints on them in turns.  No variable occurs in a
posting before it was created, and no two of them have the same name.

* `Posting.mentioned` and `Posting.literals` are the variables that occur in a posting, and the
  literals that it is made of.
* `Posting.IsGrounded` says that a posting refers only to what was created earlier, and
  `AreGrounded` that all of some postings do; `AreGrounded.append` puts postings in a row.
* `HasLinkVars` is what all families of constraints rely on, and the lemmas on the families say that
  they rely on nothing else but what they create themselves.
* `variables_never_confused` is the result for the whole of a model.
-/

namespace NocRouting

open RoutingModel

/-! ### Variables of postings -/

section Postings

variable {ν : Type}

/-- The variables that occur in a posting, apart from one that it creates. -/
def Posting.mentioned : Posting ν → List ν
  | .hint v _ => [v]
  | p => p.vars

/-- The literals that a constraint is made of: those that are counted, the one under which a
constraint is enforced, and those of the arcs of a circuit. -/
def Constraint.literals : Constraint ν → List (Literal ν)
  | .boolOr literals => literals
  | .atMostOne literals => literals
  | .exactlyOne literals => literals
  | .linear _ _ _ enforceIf => enforceIf.toList
  | .maximum _ _ => []
  | .circuit arcs => arcs.map (·.literal)

def Posting.literals : Posting ν → List (Literal ν)
  | .constrain c => c.literals
  | _ => []

/-- A posting refers only to variables that were created earlier, and its literals are boolean ones
among them or their negations. -/
structure Posting.IsGrounded (p : Posting ν) (earlier : List (Posting ν)) : Prop where
  mentioned : ∀ v ∈ p.mentioned, v ∈ createdBy earlier
  literals : ∀ l ∈ p.literals, ∃ v, .newBool v ∈ earlier ∧
    (l = .of v ∨ l = (Literal.of v).negated)

/-- Every posting refers only to what was created earlier, by given postings or by those in front of
it. -/
def AreGrounded (earlier ps : List (Posting ν)) : Prop :=
  ∀ (i : Nat) (p : Posting ν), ps[i]? = some p → p.IsGrounded (earlier ++ ps.take i)

variable {earlier earlier' ps qs : List (Posting ν)} {p : Posting ν} {v : ν}

@[simp] lemma Literal.var_of : (Literal.of v).var = v := rfl

lemma mem_createdBy_of_newBool (h : .newBool v ∈ ps) : v ∈ createdBy ps :=
  List.mem_flatMap.2 ⟨_, h, List.mem_singleton_self v⟩

lemma createdBy_subset (hsub : earlier ⊆ earlier') : createdBy earlier ⊆ createdBy earlier' := by
  intro v hv
  obtain ⟨p, hp, hv⟩ := List.mem_flatMap.1 hv
  exact List.mem_flatMap.2 ⟨p, hsub hp, hv⟩

/-- The literals of a posting are made of variables that occur in it. -/
lemma Posting.var_mem_mentioned {l : Literal ν} (hl : l ∈ p.literals) : l.var ∈ p.mentioned := by
  cases p with
  | constrain c =>
    cases c with
    | boolOr literals => exact List.mem_map_of_mem hl
    | atMostOne literals => exact List.mem_map_of_mem hl
    | exactlyOne literals => exact List.mem_map_of_mem hl
    | linear e lower upper enforceIf => exact List.mem_append_right _ (List.mem_map_of_mem hl)
    | maximum target exprs => cases hl
    | circuit arcs =>
      obtain ⟨a, ha, rfl⟩ := List.mem_map.1 hl
      exact List.mem_map_of_mem ha
  | _ => cases hl

lemma Literal.eq_of_or_eq_negated (l : Literal ν) :
    l = .of l.var ∨ l = (Literal.of l.var).negated := by
  obtain ⟨v, _ | _⟩ := l
  · exact Or.inl rfl
  · exact Or.inr rfl

/-- It is enough that all variables of a posting were created as boolean ones. -/
lemma Posting.isGrounded_of_newBool (h : ∀ v ∈ p.mentioned, .newBool v ∈ earlier) :
    p.IsGrounded earlier where
  mentioned v hv := mem_createdBy_of_newBool (h v hv)
  literals l hl := ⟨l.var, h l.var (var_mem_mentioned hl), l.eq_of_or_eq_negated⟩

lemma Posting.IsGrounded.mono (h : p.IsGrounded earlier) (hsub : earlier ⊆ earlier') :
    p.IsGrounded earlier' where
  mentioned v hv := createdBy_subset hsub (h.mentioned v hv)
  literals l hl := by
    obtain ⟨v, hv, hlv⟩ := h.literals l hl
    exact ⟨v, hsub hv, hlv⟩

lemma AreGrounded.mono (h : AreGrounded earlier ps) (hsub : earlier ⊆ earlier') :
    AreGrounded earlier' ps := by
  intro i p hp
  exact (h i p hp).mono (List.append_subset.2
    ⟨List.subset_append_of_subset_left _ hsub, List.subset_append_right _ _⟩)

lemma areGrounded_of_forall (h : ∀ p ∈ ps, p.IsGrounded earlier) : AreGrounded earlier ps := by
  intro i p hp
  exact (h p (List.mem_of_getElem? hp)).mono (List.subset_append_left _ _)

/-- Postings in a row: the later ones may refer to what the earlier ones create. -/
lemma AreGrounded.append (hp : AreGrounded earlier ps) (hq : AreGrounded (earlier ++ ps) qs) :
    AreGrounded earlier (ps ++ qs) := by
  intro i p hi
  by_cases hlt : i < ps.length
  · rw [List.getElem?_append_left hlt] at hi
    rw [List.take_append_of_le_length hlt.le]
    exact hp i p hi
  · rw [List.getElem?_append_right (by omega)] at hi
    have htake : (ps ++ qs).take i = ps ++ qs.take (i - ps.length) := by
      rw [List.take_append, List.take_of_length_le (by omega)]
    rw [htake, ← List.append_assoc]
    exact hq _ p hi

/-- Postings in a row that do not refer to each other. -/
lemma AreGrounded.both (hp : AreGrounded earlier ps) (hq : AreGrounded earlier qs) :
    AreGrounded earlier (ps ++ qs) :=
  hp.append (hq.mono (List.subset_append_left _ _))

lemma AreGrounded.flatMap {α : Type} {as : List α} {f : α → List (Posting ν)}
    (h : ∀ a ∈ as, AreGrounded earlier (f a)) : AreGrounded earlier (as.flatMap f) := by
  induction as with
  | nil => exact areGrounded_of_forall (by simp)
  | cons a as ih =>
    exact (h a List.mem_cons_self).both (ih fun b hb => h b (List.mem_cons_of_mem a hb))

lemma AreGrounded.cons (hp : p.IsGrounded earlier) (hps : AreGrounded (earlier ++ [p]) ps) :
    AreGrounded earlier (p :: ps) :=
  (areGrounded_of_forall (List.forall_mem_singleton.2 hp)).append hps

end Postings

/-! ### Families -/

/-- There are variables for a flow on all links. -/
def HasLinkVars (t : Topology) (flow : Nat) (earlier : List (Posting RoutingVar)) : Prop :=
  ∀ l ∈ t.links, .newBool (.link flow l.index) ∈ earlier

section Families

variable {t : Topology} {flow : Nat} {earlier : List (Posting RoutingVar)}

lemma HasLinkVars.of_mem_linkVars (h : HasLinkVars t flow earlier) {links : List Link}
    (hlinks : links ⊆ t.links) : ∀ v ∈ linkVars flow links, .newBool v ∈ earlier := by
  intro v hv
  obtain ⟨l, hl, rfl⟩ := List.mem_map.1 hv
  exact h l (hlinks hl)

/-- A variable can be created at any time. -/
lemma isGrounded_newBool (v : RoutingVar) : (Posting.newBool v).IsGrounded earlier :=
  Posting.isGrounded_of_newBool (by simp [Posting.mentioned, Posting.vars])

section Literals

variable {vars : List RoutingVar} (h : ∀ v ∈ vars, .newBool v ∈ earlier)
include h

lemma isGrounded_of_mem_unused : ∀ p ∈ unused vars, p.IsGrounded earlier := by
  intro p hp
  obtain ⟨v, hv, rfl⟩ := List.mem_map.1 hp
  refine Posting.isGrounded_of_newBool fun w hw => ?_
  obtain rfl : w = v := List.mem_singleton.1 hw
  exact h w hv

lemma isGrounded_exactlyOneOf : (exactlyOneOf vars).IsGrounded earlier := by
  refine Posting.isGrounded_of_newBool fun v hv => h v ?_
  unfold exactlyOneOf at hv
  split at hv
  · cases hv
  · simpa [Posting.mentioned, Posting.vars, Constraint.vars] using hv

lemma isGrounded_of_mem_atMostOneOf : ∀ p ∈ atMostOneOf vars, p.IsGrounded earlier := by
  intro p hp
  unfold atMostOneOf at hp
  split at hp
  · cases hp
  · obtain rfl := List.mem_singleton.1 hp
    refine Posting.isGrounded_of_newBool fun v hv => h v ?_
    simpa [Posting.mentioned, Posting.vars, Constraint.vars] using hv

/-- An equation between two sums refers to what is added up on either side. -/
lemma isGrounded_equals_sub {others : List RoutingVar}
    (hothers : ∀ v ∈ others, .newBool v ∈ earlier) (n : Int) :
    (equals (sumOf vars - sumOf others) n).IsGrounded earlier := by
  refine Posting.isGrounded_of_newBool fun v hv => ?_
  have hterms : (sumOf vars - sumOf others).terms.map (·.2) = vars ++ others := by
    show ((sumOf vars).terms ++ (sumOf others).terms.map _).map _ = _
    simp [sumOf, LinearExpr.sum, Function.comp_def]
  have hv : v ∈ (sumOf vars - sumOf others).terms.map (·.2) ++ [] := hv
  rw [hterms, List.append_nil] at hv
  rcases List.mem_append.1 hv with hv | hv
  · exact h v hv
  · exact hothers v hv

end Literals

/-- A counter is compared with the links that its flow takes. -/
lemma areGrounded_overrunCounter (h : HasLinkVars t flow earlier) (greatest : Value)
    (budget : Int) : AreGrounded earlier (overrunCounter t greatest flow budget) := by
  have hnew : (Posting.newInt (.int 0) greatest (.overrun flow)).IsGrounded earlier :=
    Posting.isGrounded_of_newBool (by simp [Posting.mentioned, Posting.vars])
  refine .cons hnew (areGrounded_of_forall (List.forall_mem_singleton.2 ⟨?_, ?_⟩))
  · intro v hv
    have hv : v = .overrun flow ∨ v ∈ linkVars flow t.links := by
      simpa [Posting.mentioned, Posting.vars, Constraint.vars, sumOf, LinearExpr.sum,
        LinearExpr.shift, LinearExpr.const] using hv
    rw [createdBy_append, List.mem_append]
    rcases hv with rfl | hv
    · exact Or.inr (List.mem_singleton_self _)
    · exact Or.inl (mem_createdBy_of_newBool (h.of_mem_linkVars (List.Subset.refl _) v hv))
  · simp [Posting.literals, Constraint.literals]

lemma areGrounded_counters {μ : Measures} {maxOverrun : Value} {flows : List RoutedFlow}
    {ps : List (Posting RoutingVar)} {budgets : List (Nat × Int)}
    (h : ∀ f ∈ flows, HasLinkVars t f.flow.id earlier)
    (hps : μ.counters t maxOverrun flows = ⟨ps, .ok budgets⟩) : AreGrounded earlier ps := by
  obtain ⟨hbudgets, rfl⟩ := Measures.counters_eq hps
  refine .flatMap fun b hb => ?_
  rw [hbudgets, List.mem_filterMap] at hb
  obtain ⟨f, hf, hfb⟩ := hb
  obtain ⟨budget, -, rfl⟩ := Option.map_eq_some_iff.1 hfb
  exact areGrounded_overrunCounter (h f hf) _ _

/-- An indicator is compared with the demands of the flows on its link. -/
lemma areGrounded_congestionIndicator {numFlows : Nat} {demands : List Int} {resolution : Value}
    {l : Link} {ps : List (Posting RoutingVar)} {u : Unit}
    (h : ∀ f < numFlows, HasLinkVars t f earlier) (hl : l ∈ t.links)
    (hps : congestionIndicator numFlows demands resolution l = ⟨ps, .ok u⟩) :
    AreGrounded earlier ps := by
  obtain ⟨-, beyond, -, rfl⟩ := congestionIndicator_eq hps
  have hrouted : ∀ v ∈ (routedOver numFlows demands l.index).terms.map (·.2),
      .newBool v ∈ earlier := by
    intro v hv
    obtain ⟨⟨d, w⟩, hd, rfl⟩ := List.mem_map.1 hv
    obtain ⟨f, hf, rfl⟩ := List.mem_map.1 (List.of_mem_zip hd).2
    exact h f (List.mem_range.1 hf) l hl
  refine .cons (isGrounded_newBool _) (areGrounded_of_forall ?_)
  have hnew : ∀ v, v ∈ (routedOver numFlows demands l.index).terms.map (·.2) ++
      [RoutingVar.congested l.index] →
      .newBool v ∈ earlier ++ [Posting.newBool (.congested l.index)] := by
    intro v hv
    rcases List.mem_append.1 hv with hv | hv
    · exact List.mem_append_left _ (hrouted v hv)
    · obtain rfl := List.mem_singleton.1 hv
      exact List.mem_append_right _ (List.mem_singleton_self _)
  intro p hp
  simp only [List.mem_cons, List.not_mem_nil, or_false] at hp
  rcases hp with rfl | rfl <;> exact Posting.isGrounded_of_newBool hnew

lemma areGrounded_congestionIndicators {numFlows : Nat} {demands : List Int} {resolution : Value}
    {ps : List (Posting RoutingVar)} {u : Unit} (h : ∀ f < numFlows, HasLinkVars t f earlier)
    (hps : congestionIndicators t numFlows demands resolution = ⟨ps, .ok u⟩) :
    AreGrounded earlier ps := by
  obtain ⟨rfl, hok⟩ := congestionIndicators_eq hps
  refine .flatMap fun l hl => ?_
  obtain ⟨u, hu⟩ := hok l hl
  exact areGrounded_congestionIndicator h hl hu

lemma isGrounded_of_mem_legalTurns {turns : List (Nat × Nat)} {flows : List RoutedFlow}
    (h : ∀ f ∈ flows, HasLinkVars t f.flow.id earlier)
    (hturns : ∀ i j, (i, j) ∈ turns → i ∈ t.links.map (·.index) ∧ j ∈ t.links.map (·.index)) :
    ∀ p ∈ legalTurns turns flows, p.IsGrounded earlier := by
  intro p hp
  obtain ⟨f, hf, hp⟩ := List.mem_flatMap.1 hp
  obtain ⟨⟨i, j⟩, hij, rfl⟩ := List.mem_map.1 hp
  obtain ⟨hi, hj⟩ := hturns i j hij
  obtain ⟨k, hk, rfl⟩ := List.mem_map.1 hi
  obtain ⟨l, hl, rfl⟩ := List.mem_map.1 hj
  refine Posting.isGrounded_of_newBool fun v hv => ?_
  have hv : v = .link f.flow.id k.index ∨ v = .link f.flow.id l.index := by
    simpa [Posting.mentioned, Posting.vars, Constraint.vars, Literal.negated] using hv
  rcases hv with rfl | rfl
  · exact h f hf k hk
  · exact h f hf l hl

lemma isGrounded_of_mem_degrees (h : HasLinkVars t flow earlier) {a b : Nat} :
    ∀ p ∈ degrees t flow a b, p.IsGrounded earlier := by
  have hin : ∀ r, ∀ v ∈ linkVars flow (t.incoming r), .newBool v ∈ earlier :=
    fun r => h.of_mem_linkVars (List.filter_subset_self _)
  have hout : ∀ r, ∀ v ∈ linkVars flow (t.outgoing r), .newBool v ∈ earlier :=
    fun r => h.of_mem_linkVars (List.filter_subset_self _)
  have hpassage : ∀ r, ∀ p ∈ passage t flow r, p.IsGrounded earlier := by
    intro r
    simp only [passage, List.forall_mem_append, List.forall_mem_singleton]
    exact ⟨⟨isGrounded_equals_sub (hin r) (hout r) 0, isGrounded_of_mem_atMostOneOf (hin r)⟩,
      isGrounded_of_mem_atMostOneOf (hout r)⟩
  simp only [degrees, List.forall_mem_append, List.forall_mem_cons]
  refine ⟨⟨⟨⟨isGrounded_exactlyOneOf (hout a), isGrounded_exactlyOneOf (hin b), by simp⟩,
    isGrounded_of_mem_unused (hin a)⟩, isGrounded_of_mem_unused (hout b)⟩, ?_⟩
  intro p hp
  obtain ⟨r, -, hp⟩ := List.mem_flatMap.1 hp
  exact hpassage r p hp

/-! ### Circuits -/

section Circuits

variable {a b : Nat} (ht : t.IsSound) (h : HasLinkVars t flow earlier)
include ht h

/-- The variable of an arc is that of a link, or is introduced with the arc. -/
lemma newBool_mem_of_join {j : Link × List Link} (hj : j ∈ joins t a b) :
    .newBool (joiningArc flow j).2.literal.var ∈ earlier ++ (joiningArc flow j).1 := by
  have hlink := (Topology.mem_usable.1 ((ht.mem_join hj).1 (List.mem_cons_self (a := j.1))).1).1
  obtain ⟨k, _ | ⟨l, others⟩⟩ := j
  · exact List.mem_append_left _ (h k hlink)
  · exact List.mem_append_right _ List.mem_cons_self

/-- The variable of an arc is compared with those of the links behind it. -/
lemma areGrounded_joiningArc {j : Link × List Link} (hj : j ∈ joins t a b) :
    AreGrounded earlier (joiningArc flow j).1 := by
  obtain ⟨k, _ | ⟨l, others⟩⟩ := j
  · exact areGrounded_of_forall (by simp [joiningArc])
  · have hlinks : k :: l :: others ⊆ t.links := fun x hx =>
      (Topology.mem_usable.1 ((ht.mem_join hj).1 hx).1).1
    refine .cons (isGrounded_newBool _) (areGrounded_of_forall (List.forall_mem_singleton.2 ?_))
    refine isGrounded_equals_sub (fun v hv => List.mem_append_left _ ?_) (fun v hv => ?_) 0
    · exact h.of_mem_linkVars hlinks v hv
    · obtain rfl := List.mem_singleton.1 hv
      exact List.mem_append_right _ (List.mem_singleton_self _)

lemma areGrounded_closedPath : AreGrounded earlier (closedPath t flow a b) := by
  have harcs : AreGrounded earlier
      (((joins t a b).map (joiningArc flow)).flatMap (·.1)) := by
    rw [List.flatMap_map]
    exact .flatMap fun j hj => areGrounded_joiningArc ht h hj
  have hclosing : AreGrounded earlier
      [.newBool (.closing flow), .constrain (.boolOr [Literal.of (.closing flow)])] := by
    refine .cons (isGrounded_newBool _) (areGrounded_of_forall (List.forall_mem_singleton.2 ?_))
    refine Posting.isGrounded_of_newBool fun v hv => List.mem_append_right _ ?_
    obtain rfl := List.mem_singleton.1 hv
    exact List.mem_singleton_self _
  have hskips : AreGrounded earlier
      ((routersBetween t a b).map fun r => .newBool (.skip flow r)) := by
    refine areGrounded_of_forall fun p hp => ?_
    obtain ⟨r, -, rfl⟩ := List.mem_map.1 hp
    exact isGrounded_newBool _
  refine ((harcs.both hclosing).both hskips).append
    (areGrounded_of_forall (List.forall_mem_singleton.2 (Posting.isGrounded_of_newBool ?_)))
  -- the circuit comes after all that its arcs are made of
  intro v hv
  obtain ⟨x, hx, rfl⟩ := List.mem_map.1 hv
  rcases List.mem_append.1 hx with hx | hx
  · rcases List.mem_append.1 hx with hx | hx
    · obtain ⟨y, hy, rfl⟩ := List.mem_map.1 hx
      obtain ⟨j, hj, rfl⟩ := List.mem_map.1 hy
      rcases List.mem_append.1 (newBool_mem_of_join ht h hj) with hmem | hmem
      · exact List.mem_append_left _ hmem
      · have harc := List.mem_flatMap.2 ⟨_, List.mem_map_of_mem (f := joiningArc flow) hj, hmem⟩
        exact List.mem_append_right _ (List.mem_append_left _ (List.mem_append_left _ harc))
    · obtain rfl := List.mem_singleton.1 hx
      exact List.mem_append_right _
        (List.mem_append_left _ (List.mem_append_right _ List.mem_cons_self))
  · obtain ⟨r, hr, rfl⟩ := List.mem_map.1 hx
    have hskip := List.mem_map_of_mem (f := fun r => Posting.newBool (RoutingVar.skip flow r)) hr
    exact List.mem_append_right _ (List.mem_append_right _ hskip)

end Circuits

lemma areGrounded_continuity (ht : t.IsSound) {f : RoutedFlow}
    (h : HasLinkVars t f.flow.id earlier) : AreGrounded earlier (continuity t f) := by
  by_cases hends : f.source = f.sink
  · rw [continuity, if_pos hends]
    exact areGrounded_of_forall
      (isGrounded_of_mem_unused (h.of_mem_linkVars (List.Subset.refl _)))
  · rw [continuity_of_ne hends]
    exact (areGrounded_of_forall (isGrounded_of_mem_degrees h)).both (areGrounded_closedPath ht h)

lemma isGrounded_of_mem_progress {f : RoutedFlow} (h : HasLinkVars t f.flow.id earlier) :
    ∀ p ∈ (progress t f).postings, p.IsGrounded earlier := by
  intro p hp
  obtain ⟨forwards, backwards, n, rfl⟩ := exists_of_mem_progress p hp
  exact isGrounded_equals_sub (h.of_mem_linkVars (List.filter_subset_self _))
    (h.of_mem_linkVars (List.filter_subset_self _)) n

lemma isGrounded_of_mem_routeHints {f : RoutedFlow} (h : HasLinkVars t f.flow.id earlier) :
    ∀ p ∈ (routeHints t f).postings, p.IsGrounded earlier := by
  intro p hp
  obtain ⟨l, hl, n, rfl⟩ := exists_of_mem_routeHints p hp
  refine Posting.isGrounded_of_newBool fun v hv => ?_
  obtain rfl := List.mem_singleton.1 hv
  exact h l hl

/-! ### Objectives -/

/-- The objective is made of counters, of indicators and of the variables of flows on links. -/
lemma of_mem_vars_objective {numFlows numLinks : Nat} {demands : List Int}
    {budgets : List (Nat × Int)} {v : RoutingVar}
    (hv : v ∈ (Posting.minimize (objective numFlows demands budgets numLinks)).mentioned) :
    (∃ b ∈ budgets, v = .overrun b.1) ∨ (∃ l < numLinks, v = .congested l) ∨
      ∃ f < numFlows, ∃ l < numLinks, v = .link f l := by
  have hvars : (objective numFlows demands budgets numLinks).terms.map (·.2) =
      budgets.map (fun b => .overrun b.1) ++ (List.range numLinks).map .congested ++
        (aggregateBandwidth numFlows demands numLinks).terms.map (·.2) := by
    simp [objective, totalOverrun, totalCongested, sumOf, LinearExpr.sum, LinearExpr.scale,
      Function.comp_def]
  have hv : v ∈ (objective numFlows demands budgets numLinks).terms.map (·.2) := hv
  rw [hvars] at hv
  rcases List.mem_append.1 hv with hv | hv
  · rcases List.mem_append.1 hv with hv | hv
    · obtain ⟨b, hb, rfl⟩ := List.mem_map.1 hv
      exact Or.inl ⟨b, hb, rfl⟩
    · obtain ⟨l, hl, rfl⟩ := List.mem_map.1 hv
      exact Or.inr (Or.inl ⟨l, List.mem_range.1 hl, rfl⟩)
  · obtain ⟨term, hterm, rfl⟩ := List.mem_map.1 hv
    obtain ⟨⟨d, f⟩, hf, hterm⟩ := List.mem_flatMap.1 hterm
    obtain ⟨l, hl, rfl⟩ := List.mem_map.1 hterm
    have hlt : f < (demands.take numFlows).length := (List.mem_zipIdx' hf).1
    rw [List.length_take] at hlt
    exact Or.inr (Or.inr ⟨f, by omega, l, List.mem_range.1 hl, rfl⟩)

lemma isGrounded_objective {numFlows numLinks : Nat} {demands : List Int}
    {budgets : List (Nat × Int)} (hcounters : ∀ b ∈ budgets, .overrun b.1 ∈ createdBy earlier)
    (hindicators : ∀ l < numLinks, .congested l ∈ createdBy earlier)
    (hlinks : ∀ f < numFlows, ∀ l < numLinks, .link f l ∈ createdBy earlier) :
    (Posting.minimize (objective numFlows demands budgets numLinks)).IsGrounded earlier where
  mentioned v hv := by
    rcases of_mem_vars_objective hv with ⟨b, hb, rfl⟩ | ⟨l, hl, rfl⟩ | ⟨f, hf, l, hl, rfl⟩
    · exact hcounters b hb
    · exact hindicators l hl
    · exact hlinks f hf l hl
  literals := by simp [Posting.literals]

end Families

/-! ### Models -/

lemma hasLinkVars_linkVariables {t : Topology} {flows : List RoutedFlow} {f : RoutedFlow}
    (hf : f ∈ flows) : HasLinkVars t f.flow.id (linkVariables t flows) := by
  intro l hl
  exact List.mem_flatMap.2 ⟨f, hf, List.mem_map_of_mem (List.mem_map_of_mem hl)⟩

lemma areGrounded_linkVariables {t : Topology} {flows : List RoutedFlow} :
    AreGrounded [] (linkVariables t flows) := by
  refine areGrounded_of_forall fun p hp => ?_
  obtain ⟨f, -, hp⟩ := List.mem_flatMap.1 hp
  obtain ⟨v, -, rfl⟩ := List.mem_map.1 hp
  exact isGrounded_newBool v

namespace IsAssembledOn

variable {μ : Measures} {c : Context} {resolution maxOverrun : Value}
  {ps : List (Posting RoutingVar)} {m : RoutingModel}
  (h : IsAssembledOn μ c resolution maxOverrun ps m) (hc : c.IsProper)
include h hc

lemma exists_flow {i : Nat} (hi : i < m.flows.length) : ∃ f ∈ m.flows, f.flow.id = i := by
  have hmem : i ∈ m.flows.map (·.flow.id) := by
    rw [h.ids_eq hc]
    exact List.mem_range.2 hi
  exact List.mem_map.1 hmem

lemma exists_link {i : Nat} (hi : i < m.numLinks) : ∃ l ∈ c.topology.links, l.index = i := by
  have hmem : i ∈ c.topology.links.map (·.index) := by
    rw [hc.topology.isSound.link_index, ← h.numLinks]
    exact List.mem_range.2 hi
  exact List.mem_map.1 hmem

/-- No posting of a model refers to what was not created before it. -/
theorem areGrounded : AreGrounded [] ps := by
  have ht := hc.topology.isSound
  obtain ⟨counters, indicators, hcounters, hindicators, hps⟩ := h.postings
  have hlinks : ∀ f ∈ m.flows,
      HasLinkVars c.topology f.flow.id (linkVariables c.topology m.flows) :=
    fun f hf => hasLinkVars_linkVariables hf
  have hnumbered : ∀ f < m.flows.length,
      HasLinkVars c.topology f (linkVariables c.topology m.flows) := by
    intro f hf
    obtain ⟨g, hg, rfl⟩ := h.exists_flow hc hf
    exact hlinks g hg
  have hcount := areGrounded_counters hlinks hcounters
  have hindicate := areGrounded_congestionIndicators hnumbered hindicators
  have hturns : AreGrounded (linkVariables c.topology m.flows)
      (legalTurns (c.topology.illegalTurns c.turnModel) m.flows) := by
    refine areGrounded_of_forall (isGrounded_of_mem_legalTurns hlinks fun i j hij => ?_)
    obtain ⟨k, hk, l, hl, -, -, rfl, rfl⟩ := Topology.mem_illegalTurns.1 hij
    exact ⟨List.mem_map_of_mem hk, List.mem_map_of_mem hl⟩
  have hpaths : AreGrounded (linkVariables c.topology m.flows)
      (m.flows.flatMap (continuity c.topology)) :=
    .flatMap fun f hf => areGrounded_continuity ht (hlinks f hf)
  have hprogress : AreGrounded (linkVariables c.topology m.flows)
      (m.flows.flatMap fun f => (RoutingModel.progress c.topology f).postings) :=
    .flatMap fun f hf => areGrounded_of_forall (isGrounded_of_mem_progress (hlinks f hf))
  have hhints : AreGrounded (linkVariables c.topology m.flows)
      (m.flows.flatMap fun f => (routeHints c.topology f).postings) :=
    .flatMap fun f hf => areGrounded_of_forall (isGrounded_of_mem_routeHints (hlinks f hf))
  -- the constraints refer to link variables, the objective to counters and indicators as well
  have hobjective : (Posting.minimize
      (objective m.flows.length m.demands m.budgets m.numLinks)).IsGrounded
      (linkVariables c.topology m.flows ++ counters ++ indicators) := by
    refine isGrounded_objective ?_ ?_ ?_ <;>
      simp only [createdBy_append, List.mem_append, createdBy_counters hcounters,
        createdBy_congestionIndicators hindicators]
    · intro b hb
      exact Or.inl (Or.inr (List.mem_map_of_mem hb))
    · intro i hi
      obtain ⟨l, hl, rfl⟩ := h.exists_link hc hi
      exact Or.inr (List.mem_map_of_mem hl)
    · intro f hf i hi
      obtain ⟨l, hl, rfl⟩ := h.exists_link hc hi
      exact Or.inl (Or.inl (mem_createdBy_of_newBool (hnumbered f hf l hl)))
  have hdemands := areGrounded_linkVariables.append
    ((((hcount.both hindicate).both hturns).both hpaths).both hprogress)
  have hall := hdemands.append (.cons (hobjective.mono fun p hp => ?_) (hhints.mono fun p hp => ?_))
  · simpa only [hps, List.append_assoc] using hall
  · simp only [List.mem_append] at hp ⊢
    tauto
  · simp only [List.mem_append]
    tauto

end IsAssembledOn

/-- The variables of a model are never confused, whatever it is built for: all that are created have
different names, and every posting refers only to variables that were created earlier, with literals
that are boolean ones among them or their negations. -/
theorem variables_never_confused {c : Context} (hc : c.IsProper) {resolution maxOverrun : Value}
    {m : RoutingModel} (hm : (build c resolution maxOverrun).outcome = .ok m) :
    let ps := (build c resolution maxOverrun).postings
    ((createdBy ps).map RoutingVar.name).Nodup ∧
      ∀ (i : Nat) (p : Posting RoutingVar), ps[i]? = some p → p.IsGrounded (ps.take i) := by
  have h : IsAssembled c resolution maxOverrun (build c resolution maxOverrun).postings m :=
    isAssembled_of_build (by rw [← hm])
  exact ⟨(h.createdBy_nodup hc).map RoutingVar.name_injective, h.areGrounded hc⟩

lemma Corner.routed_isProper : routed.IsProper where
  topology := isProper.topology
  flows := .add ⟨.text "p", .text "q", .int 40, .int 4, .int 7,
      .list [.int (-1), .bool true, .int 99]⟩
    (.add ⟨.text "q", .text "q", .int 30, .null, .null, .list []⟩
      (.add ⟨.text "p", .text "q", .int 40, .int 2, .text "fast", .list [.int 1, .int 2]⟩
        .empty rfl) rfl) rfl

/-- Around the corner two flows have counters and hints, and two links lie side by side. -/
theorem corner_variables_never_confused : Corner.routed.IsProper ∧
    ∃ m, (build Corner.routed (.int 128) (.int 20)).outcome = .ok m ∧
      let ps := (build Corner.routed (.int 128) (.int 20)).postings
      ((createdBy ps).map RoutingVar.name).Nodup ∧
      (∀ (i : Nat) (p : Posting RoutingVar), ps[i]? = some p → p.IsGrounded (ps.take i)) ∧
      ((createdBy ps).drop 12).take 6 = [.overrun 0, .overrun 2, .congested 0, .congested 1,
        .congested 2, .congested 3] := by
  obtain ⟨m, hm, -⟩ : ∃ m, (build Corner.routed (.int 128) (.int 20)).outcome = .ok m ∧
      m.demands = [80, 60, 80] := Except.exists_of_toOption_map (by decide)
  obtain ⟨hnames, hgrounded⟩ := variables_never_confused Corner.routed_isProper hm
  exact ⟨Corner.routed_isProper, m, hm, hnames, hgrounded, by decide⟩

end NocRouting
