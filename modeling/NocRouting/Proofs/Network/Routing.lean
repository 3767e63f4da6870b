import Mathlib.Data.Prod.Lex
import NocRouting.Context
import NocRouting.Model.Quantities
import NocRouting.Proofs.Network.Growth
import NocRouting.Proofs.Network.Path

/-!
# Legal routings

A legal routing gives every flow a path that it may take, and nothing if it has nowhere to go.
Routings are compared by three costs, in order of priority: the links that flows take beyond their
budgets, the links that carry more than they can, and the bandwidth that is routed.

* `Context.Permits` says which paths a flow may take, and `Context.IsRouting` which choices of
  paths are legal routings.
* `Context.cost` puts the three costs of a routing together.
* `IsSimplePath.isChain_iff` shows that only the turns along a path matter: two of its links that
  could follow each other do.
-/

namespace NocRouting

-- Empty sums are the `0` of core, whatever a reader of this module has loaded besides.
attribute [local instance (2000)] Zero.ofOfNat0

/-! ### Paths that may be taken -/

/-- Some links make up the displacement between two routers of a finished network. -/
def Topology.MakesProgress (t : Topology) (a b : Nat) (links : List Link) : Prop :=
  ∃ p q, t.compressedAt (.int a) = .ok p ∧ t.compressedAt (.int b) = .ok q ∧
    (links.countP (·.direction == some .east) : Int) -
      links.countP (·.direction == some .west) = (q.x : Int) - p.x ∧
    (links.countP (·.direction == some .north) : Int) -
      links.countP (·.direction == some .south) = (q.y : Int) - p.y

namespace Context

/-- The context was put together from a network and traffic as they arise. -/
structure IsProper (c : Context) : Prop where
  topology : c.topology.Reachable
  flows : c.flows.Reachable

/-- Some links of the network form a simple path between two routers, without illegal turns, that
makes up the displacement. -/
structure IsLegalPath (c : Context) (a : Nat) (path : List Link) (b : Nat) : Prop where
  subset : path ⊆ c.topology.links
  simple : IsSimplePath a path b
  legal : path.IsChain fun k l => (k.index, l.index) ∉ c.topology.illegalTurns c.turnModel
  progress : c.topology.MakesProgress a b path

/-- A path that a flow from one router to another may take. -/
def Permits (c : Context) (a b : Nat) (path : List Link) : Prop :=
  (a = b ∧ path = []) ∨ (a ≠ b ∧ c.IsLegalPath a path b)

/-- A choice of paths that the flows of a context may take. -/
def IsRouting (c : Context) (paths : List (List Link)) : Prop :=
  List.Forall₂ (fun f path => ∃ a b, c.flowRouters f = .ok (a, b) ∧ c.Permits a b path)
    c.flows paths

variable {c : Context} {a b : Nat} {path : List Link}

lemma Permits.subset (h : c.Permits a b path) : path ⊆ c.topology.links := by
  rcases h with ⟨-, rfl⟩ | ⟨-, h⟩
  · exact List.nil_subset _
  · exact h.subset

lemma Permits.simple (h : c.Permits a b path) : IsSimplePath a path b := by
  rcases h with ⟨rfl, rfl⟩ | ⟨-, h⟩
  · exact ⟨rfl, by simp [visits]⟩
  · exact h.simple

lemma Permits.legal (h : c.Permits a b path) :
    path.IsChain fun k l => (k.index, l.index) ∉ c.topology.illegalTurns c.turnModel := by
  rcases h with ⟨-, rfl⟩ | ⟨-, h⟩
  · exact List.isChain_nil
  · exact h.legal

/-- A path takes no link twice, so it has no more links than the network. -/
lemma Permits.length_le (h : c.Permits a b path) : path.length ≤ c.topology.links.length :=
  (h.simple.nodup.subperm h.subset).length_le

end Context

/-! ### Where flows lead -/

/-- There is a router at a location that one is found for. -/
lemma Topology.IsSound.routerAt_lt {t : Topology} (ht : t.IsSound) {location : List Value} {i : Nat}
    (h : t.routerAt location = .ok i) : i < t.routers.length := by
  have hfound : ∀ {x y layer : Value}, routerAt.find t x y layer = .ok i →
      i < t.routers.length := by
    intro x y layer hfind
    simp only [routerAt.find, Except.bind_eq_ok] at hfind
    obtain ⟨position, -, hfind⟩ := hfind
    split at hfind
    · next r hr =>
      obtain rfl := Except.pure_eq_ok.1 hfind
      have hindex := List.mem_map_of_mem (f := (·.index)) (List.mem_of_find?_eq_some hr)
      rwa [ht.router_index, List.mem_range] at hindex
    · simp at hfind
  unfold routerAt at h
  split at h
  · exact hfound h
  · exact hfound h
  · simp at h

namespace Context

variable {c : Context} {f : Flow} {a b : Nat}

/-- The router that a block is placed on is the one at its location. -/
lemma blockRouter_eq_ok {block : Value} : c.blockRouter block = .ok a ↔
    ∃ location members, c.placement.location block = .ok location ∧
      location.asMembers = .ok members ∧ c.topology.routerAt members = .ok a := by
  unfold blockRouter
  cases c.placement.location block with
  | error fault => cases fault <;> simp
  | ok location =>
    simp only [Except.bind_eq_ok, Except.ok.injEq, exists_and_left, exists_eq_left']
    refine exists_congr fun members => and_congr_right fun _ => ?_
    cases c.topology.routerAt members with
    | error fault => cases fault <;> simp
    | ok i => rfl

lemma flowRouters_eq_ok : c.flowRouters f = .ok (a, b) ↔
    c.blockRouter f.source = .ok a ∧ c.blockRouter f.sink = .ok b := by
  simp only [flowRouters, Except.bind_eq_ok, Except.pure_eq_ok, Prod.mk.injEq]
  constructor
  · rintro ⟨_, ha, _, hb, rfl, rfl⟩
    exact ⟨ha, hb⟩
  · rintro ⟨ha, hb⟩
    exact ⟨a, ha, b, hb, rfl, rfl⟩

/-- Blocks are placed on routers of the network. -/
lemma blockRouter_lt (ht : c.topology.IsSound) {block : Value} (h : c.blockRouter block = .ok a) :
    a < c.topology.routers.length := by
  obtain ⟨location, members, -, -, hrouter⟩ := blockRouter_eq_ok.1 h
  exact ht.routerAt_lt hrouter

/-- Flows lead from routers of the network to routers of it. -/
lemma flowRouters_lt (ht : c.topology.IsSound) (h : c.flowRouters f = .ok (a, b)) :
    a < c.topology.routers.length ∧ b < c.topology.routers.length := by
  obtain ⟨ha, hb⟩ := flowRouters_eq_ok.1 h
  exact ⟨blockRouter_lt ht ha, blockRouter_lt ht hb⟩

end Context

/-! ### Turns -/

lemma Topology.mem_illegalTurns {t : Topology} {m : TurnModel} {i j : Nat} :
    (i, j) ∈ t.illegalTurns m ↔ ∃ k ∈ t.links, ∃ l ∈ t.links,
      m.forbids k l = true ∧ l.source = k.sink ∧ k.index = i ∧ l.index = j := by
  simp [illegalTurns, outgoing, and_assoc]

/-- Two links of a network make an illegal turn if the second leaves the router that the first
enters, and the turn model forbids to take it there. -/
lemma Topology.IsSound.mem_illegalTurns_iff {t : Topology} (ht : t.IsSound) {m : TurnModel}
    {k l : Link} (hk : k ∈ t.links) (hl : l ∈ t.links) :
    (k.index, l.index) ∈ t.illegalTurns m ↔ k.sink = l.source ∧ m.forbids k l = true := by
  constructor
  · intro hmem
    obtain ⟨k', hk', l', hl', hforbids, hjoin, hki, hli⟩ := Topology.mem_illegalTurns.1 hmem
    obtain rfl := ht.link_ext hk' hk hki
    obtain rfl := ht.link_ext hl' hl hli
    exact ⟨hjoin.symm, hforbids⟩
  · rintro ⟨hjoin, hforbids⟩
    exact Topology.mem_illegalTurns.2 ⟨k, hk, l, hl, hforbids, hjoin.symm, rfl, rfl⟩

/-- A path without illegal turns has no two links at all that would make one. -/
lemma IsSimplePath.isChain_iff {t : Topology} {m : TurnModel} {a b : Nat} {path : List Link}
    (h : IsSimplePath a path b) (ht : t.IsSound) (hsub : path ⊆ t.links) :
    path.IsChain (fun k l => (k.index, l.index) ∉ t.illegalTurns m) ↔
      ∀ k ∈ path, ∀ l ∈ path, (k.index, l.index) ∉ t.illegalTurns m := by
  constructor
  · intro hchain k hk l hl hturn
    have hkl := ((ht.mem_illegalTurns_iff (hsub hk) (hsub hl)).1 hturn).1
    obtain ⟨p, q, rfl⟩ := h.exists_append hk hl hkl
    exact (List.isChain_append_cons_cons.1 hchain).2.1 hturn
  · intro hall
    exact (List.pairwise_of_forall_mem_list hall).isChain

/-! ### Costs -/

/-- The links that a flow can take within its latency, if that is limited. -/
def Topology.budget? (t : Topology) (f : Flow) : Option Int :=
  match f.isConstrained with
  | .ok true => (hopBudget t.linkLatency t.routerLatency f.maxLatency).toOption
  | _ => none

/-- The number of links that a flow takes beyond its budget. -/
def Topology.overrun (t : Topology) (f : Flow) (path : List Link) : Int :=
  match t.budget? f with
  | some budget => max 0 (path.length - budget)
  | none => 0

/-- The demand that is routed over a link. -/
def load (demands : List Int) (paths : List (List Link)) (link : Nat) : Int :=
  ((demands.zip paths).map fun (d, path) => if path.any (·.index == link) then d else 0).sum

namespace Context

/-- The number of links that the flows take beyond their budgets. -/
def overrun (c : Context) (paths : List (List Link)) : Int :=
  ((c.flows.zip paths).map fun (f, path) => c.topology.overrun f path).sum

/-- The number of links that carry more than the resolution. -/
def congested (c : Context) (demands : List Int) (resolution : Int) (paths : List (List Link)) :
    Nat :=
  c.topology.links.countP fun l => resolution < load demands paths l.index

end Context

/-- The bandwidth that is routed: every flow counts on every link of its path. -/
def aggregate (demands : List Int) (paths : List (List Link)) : Int :=
  ((demands.zip paths).map fun (d, path) => d * path.length).sum

/-- The costs of a routing, in order of priority. -/
def Context.cost (c : Context) (demands : List Int) (resolution : Int)
    (paths : List (List Link)) : Int ×ₗ Nat ×ₗ Int :=
  toLex (c.overrun paths, toLex (c.congested demands resolution paths, aggregate demands paths))

/-! ### Routers around a corner -/

namespace Corner

/-- Three routers around a corner.  Two links lead from the first to the second, one back, and one
on to the third. -/
def topology : Topology where
  linkBandwidth := .int 64
  linkLatency := .int 1
  routerLatency := .int 1
  routers := [⟨0, .text "a", .ofInts 0 0 0⟩, ⟨1, .text "b", .ofInts 3 0 0⟩,
    ⟨2, .text "c", .ofInts 3 5 0⟩]
  links := [⟨0, 0, 1, .number 0, .number 1, some .east, .int 64, .int 1⟩,
    ⟨1, 0, 1, .number 0, .number 1, some .east, .int 64, .int 1⟩,
    ⟨2, 1, 2, .number 1, .number 2, some .north, .int 64, .int 1⟩,
    ⟨3, 1, 0, .number 1, .number 0, some .west, .int 64, .int 1⟩]
  compressed := some [⟨0, 0, .int 0⟩, ⟨1, 0, .int 0⟩, ⟨1, 1, .int 0⟩]

/-- Two flows around the corner, which are too much for one link, and one that stays where it is.
The first flow has no time for any link, and the last one has time for one. -/
def traffic : Traffic :=
  [⟨0, .text "p", .text "q", .int 40, .int 2, .null, []⟩,
    ⟨1, .text "q", .text "q", .int 30, .null, .null, []⟩,
    ⟨2, .text "p", .text "q", .int 40, .int 4, .null, []⟩]

/-- The flows around the corner, along the row first. -/
def context : Context where
  topology := topology
  flows := traffic
  placement := ⟨[(.text "p", .list [.int 0, .int 0]), (.text "q", .list [.int 3, .int 5, .int 0])]⟩
  turnModel := .xy

lemma isProper : context.IsProper where
  topology := .finish (.addLink (.int 1) (.int 0) (.addLink (.int 1) (.int 2)
    (.addLink (.int 0) (.int 1) (.addLink (.int 0) (.int 1)
      (.addRouter (.text "c") (.ofInts 3 5 0) (.addRouter (.text "b") (.ofInts 3 0 0)
        (.addRouter (.text "a") (.ofInts 0 0 0) (.bare (.int 64) (.int 1) (.int 1))
        rfl) rfl) rfl) rfl) rfl) rfl) rfl) rfl
  flows := .add ⟨.text "p", .text "q", .int 40, .int 4, .null, .list []⟩
    (.add ⟨.text "q", .text "q", .int 30, .null, .null, .list []⟩
      (.add ⟨.text "p", .text "q", .int 40, .int 2, .null, .list []⟩ .empty rfl) rfl) rfl

/-- The flows that go around the corner take different links to the second router. -/
def paths : List (List Link) :=
  [[topology.links[1], topology.links[2]], [], [topology.links[0], topology.links[2]]]

lemma isLegalPath {l : Link} (hl : l = topology.links[0] ∨ l = topology.links[1]) :
    context.IsLegalPath 0 [l, topology.links[2]] 2 := by
  rcases hl with rfl | rfl
  all_goals
    refine ⟨?_, ⟨?_, by decide⟩, by decide, ?_⟩
    · simp [context, topology]
    · simp [topology]
    · exact ⟨_, _, rfl, rfl, by decide, by decide⟩

lemma isRouting : context.IsRouting paths :=
  .cons ⟨0, 2, rfl, Or.inr ⟨by decide, isLegalPath (Or.inr rfl)⟩⟩
    (.cons ⟨2, 2, rfl, Or.inl ⟨rfl, rfl⟩⟩
      (.cons ⟨0, 2, rfl, Or.inr ⟨by decide, isLegalPath (Or.inl rfl)⟩⟩ .nil))

end Corner

end NocRouting
