import NocRouting.Proofs.Model.Families

/-!
# Renaming of variables

Constraints do not depend on what their variables are called.  An assignment meets renamed
constraints exactly if it meets the constraints themselves when every variable is given the value of
the one that it was renamed to.

In a routing model most variables belong to a flow.  If flows are numbered in another way, what is
posted for a flow is what was posted for it before, with its variables renamed.

* `satisfies_map_rename` says what an assignment makes of renamed postings.
* `RoutingModel.ownPostings` is what is posted for a single flow, and
  `RoutingModel.ownPostings_renumber` says what becomes of it under another number.
-/

namespace NocRouting

/-! ### Postings with other variables -/

section Rename

variable {ν μ κ : Type} (ρ : ν → μ)

def LinearExpr.rename (e : LinearExpr κ ν) : LinearExpr κ μ :=
  ⟨e.terms.map fun (c, v) => (c, ρ v), e.constant⟩

lemma LinearExpr.rename_sub (a b : LinearExpr Int ν) :
    (a - b).rename ρ = a.rename ρ - b.rename ρ := by
  show LinearExpr.mk ((a.terms ++ (-b).terms).map _) _ =
    LinearExpr.mk (a.terms.map _ ++ (-b.rename ρ).terms) _
  have hterms : (-b).terms.map (fun t => (t.1, ρ t.2)) = (-b.rename ρ).terms := by
    show (b.terms.map _).map _ = (b.terms.map _).map _
    rw [List.map_map, List.map_map]
    rfl
  rw [List.map_append, ← hterms]
  rfl

def Literal.rename (l : Literal ν) : Literal μ :=
  ⟨ρ l.var, l.isNegated⟩

def Arc.rename (a : Arc ν) : Arc μ :=
  ⟨a.tail, a.head, a.literal.rename ρ⟩

def Constraint.rename : Constraint ν → Constraint μ
  | .boolOr literals => .boolOr (literals.map (.rename ρ))
  | .atMostOne literals => .atMostOne (literals.map (.rename ρ))
  | .exactlyOne literals => .exactlyOne (literals.map (.rename ρ))
  | .linear e lower upper enforceIf =>
    .linear (e.rename ρ) lower upper (enforceIf.map (.rename ρ))
  | .maximum target exprs => .maximum (target.rename ρ) (exprs.map (.rename ρ))
  | .circuit arcs => .circuit (arcs.map (.rename ρ))

def Posting.rename : Posting ν → Posting μ
  | .newBool v => .newBool (ρ v)
  | .newInt lower upper v => .newInt lower upper (ρ v)
  | .constrain c => .constrain (c.rename ρ)
  | .hint v n => .hint (ρ v) n
  | .clearHints => .clearHints
  | .minimize e => .minimize (e.rename ρ)
  | .solve q => .solve q

end Rename

/-! ### What renamed postings mean -/

section Meaning

variable {ν μ : Type} (ρ : ν → μ) (σ : μ → Int)

lemma LinearExpr.value_rename (e : LinearExpr Int ν) :
    (e.rename ρ).value σ = e.value (σ ∘ ρ) := by
  simp only [value, rename, List.map_map]
  rfl

lemma Literal.countTrue_rename (literals : List (Literal ν)) :
    countTrue σ (literals.map (.rename ρ)) = countTrue (σ ∘ ρ) literals := by
  rw [countTrue, List.countP_map]
  rfl

namespace Circuit

lemma used_rename (arcs : List (Arc ν)) :
    used σ (arcs.map (.rename ρ)) = (used (σ ∘ ρ) arcs).map (.rename ρ) := by
  rw [used, List.filter_map]
  rfl

lemma walk_rename (arcs : List (Arc ν)) (steps : Nat) (node : Int) :
    walk (arcs.map (.rename ρ)) steps node = walk arcs steps node := by
  induction steps generalizing node with
  | zero => rfl
  | succ steps ih =>
    have hfind : (arcs.map (Arc.rename ρ)).find? (·.source == node) =
        (arcs.find? (·.source == node)).map (.rename ρ) := by
      rw [List.find?_map]
      rfl
    rw [walk, walk, hfind]
    cases arcs.find? (·.source == node) with
    | none => rfl
    | some a => exact congrArg (node :: ·) (ih a.sink)

/-- Whether arcs form a circuit does not depend on their variables. -/
lemma isSingle_rename (nodes : List Int) (arcs : List (Arc ν)) :
    isSingle nodes (arcs.map (.rename ρ)) = isSingle nodes arcs := by
  simp only [isSingle, List.filter_map, List.countP_map, List.all_map, List.length_map,
    Function.comp_def, walk_rename]
  rfl

end Circuit

lemma Constraint.holds_rename (c : Constraint ν) :
    (c.rename ρ).holds σ = c.holds (σ ∘ ρ) := by
  cases c with
  | boolOr literals => simp only [rename, holds, Literal.countTrue_rename]
  | atMostOne literals => simp only [rename, holds, Literal.countTrue_rename]
  | exactlyOne literals => simp only [rename, holds, Literal.countTrue_rename]
  | linear e lower upper enforceIf =>
    simp only [rename, holds, LinearExpr.value_rename, Option.all_map]
    rfl
  | maximum target exprs =>
    simp only [rename, holds, List.all_map, List.any_map, Function.comp_def,
      LinearExpr.value_rename]
    rfl
  | circuit arcs =>
    rw [rename, holds, Circuit.used_rename, Circuit.isSingle_rename]
    simp only [holds, Circuit.nodes, List.flatMap_map]
    rfl

/-- Renamed postings are met by an assignment if the postings are met when every variable has the
value of the one that it is renamed to. -/
theorem satisfies_map_rename {ps : List (Posting ν)} :
    Satisfies σ (ps.map (.rename ρ)) ↔ Satisfies (σ ∘ ρ) ps := by
  simp only [Satisfies, List.forall_mem_map]
  refine forall₂_congr fun p _ => ?_
  cases p with
  | constrain c => rw [Posting.rename, Posting.admits, Posting.admits, Constraint.holds_rename]
  | _ => rfl

end Meaning

/-! ### Flows under other numbers -/

/-- The variable with its flow numbered in another way. -/
def RoutingVar.renumber (ρ : Nat → Nat) : RoutingVar → RoutingVar
  | .link f l => .link (ρ f) l
  | .overrun f => .overrun (ρ f)
  | .congested l => .congested l
  | .arc f tail head => .arc (ρ f) tail head
  | .closing f => .closing (ρ f)
  | .skip f r => .skip (ρ f) r

/-- The flow under another number. -/
def Flow.numbered (f : Flow) (id : Nat) : Flow :=
  { f with id := id }

/-- The flow with its number changed. -/
def RoutedFlow.renumber (ρ : Nat → Nat) (g : RoutedFlow) : RoutedFlow :=
  { g with flow := g.flow.numbered (ρ g.flow.id) }

namespace RoutingModel

variable {t : Topology} (ρ : Nat → Nat)

/-- What is posted for a single flow, but for its overrun counter. -/
def ownPostings (c : Context) (g : RoutedFlow) : List (Posting RoutingVar) :=
  linkVariables c.topology [g] ++ legalTurns (c.topology.illegalTurns c.turnModel) [g] ++
    continuity c.topology g ++ (progress c.topology g).postings

lemma linkVars_renumber (flow : Nat) (links : List Link) :
    linkVars (ρ flow) links = (linkVars flow links).map (.renumber ρ) := by
  rw [linkVars, linkVars, List.map_map]
  rfl

lemma sumOf_map (vars : List RoutingVar) :
    sumOf (vars.map (.renumber ρ)) = (sumOf vars).rename (.renumber ρ) := by
  simp only [sumOf, LinearExpr.sum, LinearExpr.rename, List.map_map]
  rfl

lemma unused_map (vars : List RoutingVar) :
    unused (vars.map (.renumber ρ)) = (unused vars).map (.rename (.renumber ρ)) := by
  simp only [unused, List.map_map]
  rfl

lemma literals_map (vars : List RoutingVar) :
    (vars.map (RoutingVar.renumber ρ)).map Literal.of =
      (vars.map Literal.of).map (.rename (.renumber ρ)) := by
  rw [List.map_map, List.map_map]
  rfl

lemma exactlyOneOf_map (vars : List RoutingVar) :
    exactlyOneOf (vars.map (.renumber ρ)) = (exactlyOneOf vars).rename (.renumber ρ) := by
  rw [exactlyOneOf, exactlyOneOf, List.isEmpty_map, literals_map]
  split <;> rfl

lemma atMostOneOf_map (vars : List RoutingVar) :
    atMostOneOf (vars.map (.renumber ρ)) = (atMostOneOf vars).map (.rename (.renumber ρ)) := by
  rw [atMostOneOf, atMostOneOf, List.isEmpty_map, literals_map]
  split <;> rfl

lemma equals_rename (e : RoutingExpr) (n : Int) :
    equals (e.rename (.renumber ρ)) n = (equals e n).rename (.renumber ρ) := rfl

lemma passage_renumber (flow router : Nat) :
    passage t (ρ flow) router = (passage t flow router).map (.rename (.renumber ρ)) := by
  simp only [passage, linkVars_renumber, atMostOneOf_map, sumOf_map, ← LinearExpr.rename_sub,
    equals_rename, List.map_append]
  rfl

lemma joiningArc_renumber (flow : Nat) (j : Link × List Link) :
    joiningArc (ρ flow) j = ((joiningArc flow j).1.map (.rename (.renumber ρ)),
      (joiningArc flow j).2.rename (.renumber ρ)) := by
  obtain ⟨l, _ | ⟨k, others⟩⟩ := j
  · rfl
  · have hsum : sumOf [RoutingVar.arc (ρ flow) l.shownSource l.shownSink] =
        (sumOf [RoutingVar.arc flow l.shownSource l.shownSink]).rename (.renumber ρ) := rfl
    simp only [joiningArc, linkVars_renumber, sumOf_map, hsum, ← LinearExpr.rename_sub,
      equals_rename]
    rfl

lemma closedPath_renumber (flow source sink : Nat) :
    closedPath t (ρ flow) source sink =
      (closedPath t flow source sink).map (.rename (.renumber ρ)) := by
  have harcs : ((joins t source sink).map (joiningArc (ρ flow))).map (·.2) =
      (((joins t source sink).map (joiningArc flow)).map (·.2)).map (.rename (.renumber ρ)) := by
    simp only [List.map_map]
    exact List.map_congr_left fun j _ => congrArg Prod.snd (joiningArc_renumber ρ flow j)
  have hposted : ((joins t source sink).map (joiningArc (ρ flow))).flatMap (·.1) =
      (((joins t source sink).map (joiningArc flow)).flatMap (·.1)).map
        (.rename (.renumber ρ)) := by
    simp only [List.flatMap_map, List.map_flatMap, joiningArc_renumber]
  simp only [closedPath, harcs, hposted, List.map_append, List.map_cons, List.map_nil,
    List.map_map, Posting.rename, Constraint.rename]
  rfl

lemma degrees_renumber (flow source sink : Nat) :
    degrees t (ρ flow) source sink =
      (degrees t flow source sink).map (.rename (.renumber ρ)) := by
  have hpassages : passage t (ρ flow) =
      fun r => (passage t flow r).map (.rename (.renumber ρ)) :=
    funext fun r => passage_renumber ρ flow r
  simp only [degrees, linkVars_renumber, exactlyOneOf_map, unused_map, hpassages,
    List.map_append, List.map_flatMap, List.map_cons, List.map_nil]

lemma continuity_renumber (g : RoutedFlow) :
    continuity t (g.renumber ρ) = (continuity t g).map (.rename (.renumber ρ)) := by
  by_cases h : g.source = g.sink
  · have h' : (g.renumber ρ).source = (g.renumber ρ).sink := h
    rw [continuity, continuity, if_pos h, if_pos h', ← unused_map, ← linkVars_renumber]
    rfl
  · have h' : (g.renumber ρ).source ≠ (g.renumber ρ).sink := h
    rw [continuity_of_ne h, continuity_of_ne h', List.map_append, ← degrees_renumber,
      ← closedPath_renumber]
    rfl

lemma progressAlong_renumber (flow : Nat) (forwards backwards : Direction) (displacement : Int) :
    progressAlong t (ρ flow) forwards backwards displacement =
      (progressAlong t flow forwards backwards displacement).rename (.renumber ρ) := by
  simp only [progressAlong, linkVars_renumber, sumOf_map, ← LinearExpr.rename_sub, equals_rename]

lemma progress_renumber (g : RoutedFlow) :
    (progress t (g.renumber ρ)).postings =
      (progress t g).postings.map (.rename (.renumber ρ)) := by
  by_cases h : g.source = g.sink
  · have h' : (g.renumber ρ).source = (g.renumber ρ).sink := h
    rw [progress_of_eq h, progress_of_eq h', List.map_nil]
  · have hsource : (g.renumber ρ).source = g.source := rfl
    have hsink : (g.renumber ρ).sink = g.sink := rfl
    have hid : (g.renumber ρ).flow.id = ρ g.flow.id := rfl
    simp only [progress, hsource, hsink, hid, ne_eq, h, not_false_eq_true, if_true,
      progressAlong_renumber]
    -- the progress of a flow is only posted if the places of both its ends are known
    cases t.compressedAt (.int g.source) with
    | error fault => rfl
    | ok a =>
      cases t.compressedAt (.int g.sink) with
      | error fault => rfl
      | ok b => rfl

/-- What is posted for a flow under another number has its variables renamed. -/
theorem ownPostings_renumber (c : Context) (g : RoutedFlow) :
    ownPostings c (g.renumber ρ) = (ownPostings c g).map (.rename (.renumber ρ)) := by
  have hlinks : linkVariables c.topology [g.renumber ρ] =
      (linkVariables c.topology [g]).map (.rename (.renumber ρ)) := by
    have hid : (g.renumber ρ).flow.id = ρ g.flow.id := rfl
    simp only [linkVariables, List.flatMap_singleton, hid, linkVars_renumber, List.map_map]
    rfl
  have hturns : ∀ turns, legalTurns turns [g.renumber ρ] =
      (legalTurns turns [g]).map (.rename (.renumber ρ)) := by
    intro turns
    simp only [legalTurns, List.flatMap_singleton, List.map_map]
    rfl
  simp only [ownPostings, hlinks, hturns, continuity_renumber, progress_renumber, List.map_append]

/-- So has the overrun counter of a flow. -/
lemma overrunCounter_renumber (greatest : Value) (flow : Nat) (budget : Int) :
    overrunCounter t greatest (ρ flow) budget =
      (overrunCounter t greatest flow budget).map (.rename (.renumber ρ)) := by
  simp only [overrunCounter, linkVars_renumber, sumOf_map, List.map_cons, List.map_nil]
  rfl

end RoutingModel

end NocRouting
