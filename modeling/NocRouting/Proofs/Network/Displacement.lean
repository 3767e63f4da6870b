import Mathlib.Algebra.BigOperators.Group.List.Basic
import NocRouting.Proofs.Network.Acceptance
import NocRouting.Proofs.Network.Routing

/-!
# Displacement

Where every link takes a single step in its direction, links that carry something from one router
to another make up the displacement between the two, whatever cycles there are on the side: what
one link does at a router, another one takes up from there.

* `IsBalanced` says that links leave every router as often as they enter it, the two ends apart.
  Walks are balanced, and so are unit flows.
* `IsBalanced.sum_eq` sums up the differences along the links, and `IsBalanced.makesProgress` the
  steps.
* `Topology.IsCharted.place_sink` says how far a link leads where links take single steps.
-/

namespace NocRouting

-- Empty sums are the `0` of core, whatever a reader of this module has loaded besides.
attribute [local instance (2000)] Zero.ofOfNat0

/-! ### Balance -/

/-- The links leave every router as often as they enter it, but for one that they leave once more
and one that they enter once more. -/
def IsBalanced (a b : Nat) (links : List Link) : Prop :=
  (links.map (·.source) ++ [b]).Perm (a :: links.map (·.sink))

section Balance

variable {a b : Nat} {links path : List Link}

lemma IsWalk.isBalanced (h : IsWalk a path b) : IsBalanced a b path := by
  rw [IsBalanced, h.sources_append]
  exact .refl _

lemma IsUnitFlow.isBalanced (h : IsUnitFlow a b links) (hab : a ≠ b) : IsBalanced a b links := by
  refine List.perm_iff_count.2 fun r => ?_
  rw [List.count_append, List.count_singleton, List.count_cons]
  by_cases hra : r = a
  · obtain rfl := hra
    have hin := List.count_eq_zero.2 h.in_source
    have hout := h.out_source
    simp [Ne.symm hab]
    omega
  · by_cases hrb : r = b
    · obtain rfl := hrb
      have hin := h.in_sink
      have hout := List.count_eq_zero.2 h.out_sink
      simp [hab]
      omega
    · have hpassage := (h.passage r hra hrb).1
      simp [Ne.symm hra, Ne.symm hrb]
      omega

/-- What changes along the links is what changes from the first router to the last one. -/
lemma IsBalanced.sum_eq (h : IsBalanced a b links) (f : Nat → Int) {g : Link → Int}
    (hg : ∀ l ∈ links, f l.sink = f l.source + g l) : f b = f a + (links.map g).sum := by
  have hends := (h.map f).sum_eq
  have hsinks : (links.map fun l => f l.sink).sum =
      (links.map fun l => f l.source).sum + (links.map g).sum := by
    rw [← List.sum_map_add]
    exact congrArg List.sum (List.map_congr_left hg)
  simp only [List.map_append, List.map_map, List.map_cons, List.map_nil, List.sum_append,
    List.sum_cons, List.sum_nil, Function.comp_def, hsinks] at hends
  omega

end Balance

/-! ### Steps -/

/-- How far a link leads that takes a single step, or only changes the layer. -/
def Link.vector (l : Link) : Int × Int :=
  match l.direction with
  | some d => d.vector
  | none => (0, 0)

/-- Steps to the east and north count forwards, those to the west and south backwards. -/
lemma sum_vector (links : List Link) :
    (links.map fun l => l.vector.1).sum =
        (links.countP (·.direction == some .east) : Int) -
          links.countP (·.direction == some .west) ∧
      (links.map fun l => l.vector.2).sum =
        (links.countP (·.direction == some .north) : Int) -
          links.countP (·.direction == some .south) := by
  induction links with
  | nil => exact ⟨rfl, rfl⟩
  | cons l links ih =>
    simp only [List.map_cons, List.sum_cons, List.countP_cons, ih.1, ih.2]
    rcases hd : l.direction with _ | d
    · simp [Link.vector, hd]
    · cases d <;> simp [Link.vector, hd, Direction.vector] <;> omega

namespace Topology

variable {t : Topology} {a b : Nat} {links : List Link} {l : Link}

lemma IsStep.place_sink {d : Direction} (h : t.IsStep d l) :
    t.place l.sink = t.place l.source + l.vector := by
  rw [h.place, Link.vector, h.direction]

/-- Every link with a direction leads one column or one row further in that direction. -/
def IsGridLike (t : Topology) : Prop :=
  ∀ l ∈ t.links, ∀ d, l.direction = some d → ∃ p q,
    t.compressedAt (.int l.source) = .ok p ∧ t.compressedAt (.int l.sink) = .ok q ∧
      ((q.x : Int), (q.y : Int)) = ((p.x : Int), (p.y : Int)) + d.vector

namespace IsCharted

variable (h : t.IsCharted)
include h

/-- A link without a direction stays in its column and row. -/
lemma place_sink_of_none (hl : l ∈ t.links) (hnone : l.direction = none) :
    t.place l.sink = t.place l.source := by
  have hplaced := h.reachable.isPlaced
  obtain ⟨a, b, ha, hb, hdir⟩ := hplaced.direction l hl
  have hwa := h.whole a (List.mem_of_getElem? ha)
  have hwb := h.whole b (List.mem_of_getElem? hb)
  have hapart : a.position.same b.position = false := by
    rcases Nat.lt_or_gt_of_ne (h.reachable.isSound.source_ne_sink l hl) with hlt | hlt
    · exact hplaced.same_eq_false ha hb hlt
    · have hba := hplaced.same_eq_false hb ha hlt
      rw [← Bool.not_eq_true, hwb.same_iff hwa] at hba
      rw [← Bool.not_eq_true, hwa.same_iff hwb]
      omega
  rw [hnone, directionBetween_eq_ok_iff hwa hwb hapart,
    Position.heads_none_iff hwa hwb hapart] at hdir
  rw [h.place_getElem? ha, h.place_getElem? hb, hdir.1, hdir.2]

/-- Where links take single steps, every link leads as far as its direction says. -/
lemma place_sink (hgrid : t.IsGridLike) (hl : l ∈ t.links) :
    t.place l.sink = t.place l.source + l.vector := by
  rcases hd : l.direction with _ | d
  · simp [Link.vector, hd, h.place_sink_of_none hl hd]
  · obtain ⟨p, q, hp, hq, hstep⟩ := hgrid l hl d hd
    rw [place_eq hp, place_eq hq, hstep]
    simp [Link.vector, hd]

/-- Links in single steps make up the displacement between the routers that they lead from and
to. -/
theorem makesProgress (ha : a < t.routers.length) (hb : b < t.routers.length)
    (hbalanced : IsBalanced a b links)
    (hsteps : ∀ l ∈ links, t.place l.sink = t.place l.source + l.vector) :
    t.MakesProgress a b links := by
  have hpa := h.compressedAt_eq (List.getElem?_eq_getElem ha)
  have hpb := h.compressedAt_eq (List.getElem?_eq_getElem hb)
  refine ⟨_, _, hpa, hpb, ?_⟩
  have hx : (t.place b).1 = (t.place a).1 + (links.map fun l => l.vector.1).sum :=
    hbalanced.sum_eq (fun r => (t.place r).1) fun l hl => congrArg Prod.fst (hsteps l hl)
  have hy : (t.place b).2 = (t.place a).2 + (links.map fun l => l.vector.2).sum :=
    hbalanced.sum_eq (fun r => (t.place r).2) fun l hl => congrArg Prod.snd (hsteps l hl)
  rw [place_eq hpa, place_eq hpb, (sum_vector links).1] at hx
  rw [place_eq hpa, place_eq hpb, (sum_vector links).2] at hy
  exact ⟨by omega, by omega⟩

end IsCharted

end Topology

end NocRouting
