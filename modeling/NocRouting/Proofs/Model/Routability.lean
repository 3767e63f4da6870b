import NocRouting.Proofs.Model.Exactness
import NocRouting.Proofs.Network.Mesh

/-!
# Meshes are routable

No turn model that has a name makes a full mesh unroutable.  Wherever the blocks are placed, every flow has a legal
path that is no longer than it has to be, and legal paths for all flows are a solution of the model
whatever the bandwidths and latencies are.

* `Context.exists_shortest_path` gives every flow such a path.
* `mesh_satisfiable` says that the model of a context on a full mesh has a solution in which all
  flows take as few links as they can.
-/

namespace NocRouting

open RoutingModel

variable {c : Context}

/-- The number of links that a flow between two routers has to take at least. -/
def CompressedPosition.distance (p q : CompressedPosition) : Nat :=
  ((q.x : Int) - p.x).natAbs + ((q.y : Int) - p.y).natAbs

/-- Every flow on a full mesh has a path that is no longer than it has to be. -/
lemma Context.exists_shortest_path (h : c.topology.IsFullMesh)
    (hturns : c.turnModel.AllowsCorners) {f : Flow} {a b : Nat}
    (hf : c.flowRouters f = .ok (a, b)) : ∃ path p q, c.Permits a b path ∧
      c.topology.compressedAt (.int a) = .ok p ∧ c.topology.compressedAt (.int b) = .ok q ∧
      path.length = p.distance q := by
  obtain ⟨ha, hb⟩ := flowRouters_lt h.reachable.isSound hf
  have hpa := h.compressedAt_eq (List.getElem?_eq_getElem ha)
  have hpb := h.compressedAt_eq (List.getElem?_eq_getElem hb)
  obtain ⟨path, hpath, hlength⟩ := exists_isLegalPath h hturns ha hb
  rw [Topology.place_eq hpa, Topology.place_eq hpb] at hlength
  refine ⟨path, _, _, ?_, hpa, hpb, hlength⟩
  by_cases hab : a = b
  · exact Or.inl ⟨hab, hpath.simple.eq_nil_iff.2 hab⟩
  · exact Or.inr ⟨hab, hpath⟩

/-- On a full mesh, under every turn model that has a name, the constraints of a model can be met so that every
flow takes as many links as its ends are apart. -/
theorem mesh_satisfiable {r k : Int} {m : RoutingModel} (hc : c.IsProper)
    (hmesh : c.topology.IsFullMesh) (hmodel : c.turnModel ∈ TurnModel.all) (hk : 0 ≤ k)
    (hm : (build c (.int r) (.int k)).outcome = .ok m) :
    ∃ σ : RoutingVar → Int, Satisfies σ (build c (.int r) (.int k)).postings ∧
      ∀ f ∈ c.flows, ∃ a b p q, c.flowRouters f = .ok (a, b) ∧
        c.topology.compressedAt (.int a) = .ok p ∧ c.topology.compressedAt (.int b) = .ok q ∧
        (c.topology.taken σ f.id).length = p.distance q := by
  have h : IsAssembled c (.int r) (.int k) (build c (.int r) (.int k)).postings m :=
    isAssembled_of_build (by rw [← hm])
  have hflows : ∀ f ∈ c.flows, ∃ path, (∃ a b, c.flowRouters f = .ok (a, b) ∧
      c.Permits a b path) ∧ ∃ a b p q, c.flowRouters f = .ok (a, b) ∧
        c.topology.compressedAt (.int a) = .ok p ∧ c.topology.compressedAt (.int b) = .ok q ∧
        path.length = p.distance q := by
    intro f hf
    obtain ⟨g, -, -, hends⟩ := exists_right_of_mem h.flows hf
    obtain ⟨path, p, q, hpath, hp, hq, hlength⟩ := Context.exists_shortest_path hmesh
      (TurnModel.allowsCorners_of_mem hmodel) hends
    exact ⟨path, ⟨_, _, hends, hpath⟩, _, _, p, q, hends, hp, hq, hlength⟩
  obtain ⟨paths, hpaths⟩ := exists_forall₂ hflows
  have hr : c.IsRouting paths := hpaths.imp fun _ _ => And.left
  have hfollows := follows_assignment (m := m) (r := r) hc hr
  refine ⟨Search.assignment m (.int r) paths,
    h.satisfies_assignment hc hr fun b _ => hk.trans (le_max_left _ _), fun f hf => ?_⟩
  obtain ⟨path, -, ⟨-, a, b, p, q, hends, hp, hq, hlength⟩, -, hperm, -⟩ := exists_right_of_mem
    (List.Forall₂.mp (fun _ _ => And.intro) hpaths (forall₂_of_follows hc hr hfollows)) hf
  exact ⟨a, b, p, q, hends, hp, hq, by rw [hperm.length_eq, hlength]⟩

lemma Square.exists_model :
    ∃ m, (build (context .negativeFirst traffic) (.int 128) (.int 20)).outcome = .ok m ∧
      m.demands = [80, 60] :=
  Except.exists_of_toOption_map (by decide)

/-- The fast flow on the square goes south before it goes east, as the turn model demands. -/
theorem square_satisfiable : (Square.context .negativeFirst Square.traffic).IsProper ∧
    (Square.context .negativeFirst Square.traffic).topology.IsFullMesh ∧
    TurnModel.negativeFirst ∈ TurnModel.all ∧ (0 : Int) ≤ 20 ∧
    ∃ m, (build (Square.context .negativeFirst Square.traffic) (.int 128) (.int 20)).outcome =
        .ok m ∧
      ∃ σ : RoutingVar → Int, Satisfies σ
          (build (Square.context .negativeFirst Square.traffic) (.int 128) (.int 20)).postings ∧
        ∀ f ∈ Square.traffic, ∃ a b p q,
          (Square.context .negativeFirst Square.traffic).flowRouters f = .ok (a, b) ∧
          Square.topology.compressedAt (.int a) = .ok p ∧
          Square.topology.compressedAt (.int b) = .ok q ∧
          (Square.topology.taken σ f.id).length = p.distance q := by
  obtain ⟨m, hm, -⟩ := Square.exists_model
  have hmodel : TurnModel.negativeFirst ∈ TurnModel.all := by
    simp [TurnModel.all, TurnModel.named]
  exact ⟨Square.isProper _, Square.isFullMesh, hmodel, by decide, m, hm,
    mesh_satisfiable (Square.isProper _) Square.isFullMesh hmodel (by decide) hm⟩

end NocRouting
