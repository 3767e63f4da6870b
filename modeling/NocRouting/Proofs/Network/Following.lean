import Mathlib.Data.Finset.Card
import NocRouting.Proofs.Network.Path
import NocRouting.Topology.Chain

/-!
# Following links

Links are followed until no further one leaves the router that was entered, or until a router is
entered again.  Every step visits another one of the routers that the links leave, so no more steps
are possible than there are links.

* `Chain.Follows` is the walk without a bound on its length.
* `Chain.follows_follow`: the number of all links is bound enough.
* `Chain.Follows.isSimplePath`: the links that are followed to an end are a simple path.
-/

namespace NocRouting

namespace Chain

/-- What comes of following links from a given one on, through routers that have not been visited:
the links that are followed, or the fault that a router is visited twice. -/
inductive Follows (given : List Given) :
    Given → List Nat → Except ChainFault (List Given) → Prop
  | revisits {first : Given} {visited : List Nat} (hrouter : first.2.sink ∈ visited) :
    Follows given first visited (.error (.revisits first.2.shownSink.toValue))
  | ends {first : Given} {visited : List Nat} (hrouter : first.2.sink ∉ visited)
    (hnext : given.find? (·.2.source == first.2.sink) = none) :
    Follows given first visited (.ok [first])
  | goes {first next : Given} {visited : List Nat} {outcome : Except ChainFault (List Given)}
    (hrouter : first.2.sink ∉ visited)
    (hnext : given.find? (·.2.source == first.2.sink) = some next)
    (hrest : Follows given next (first.2.sink :: visited) outcome) :
    Follows given first visited (outcome.map (first :: ·))

variable {given chain : List Given} {first next : Given} {visited : List Nat}

lemma mem_of_find?_source {router : Nat}
    (h : given.find? (·.2.source == router) = some next) :
    next ∈ given ∧ next.2.source = router :=
  ⟨List.mem_of_find?_eq_some h, by simpa using List.find?_some h⟩

/-! ### The end of the walk -/

/-- The routers that are left by a link and have not been visited. -/
def unvisited (given : List Given) (visited : List Nat) : Finset Nat :=
  (given.map (·.2.source)).toFinset \ visited.toFinset

lemma mem_unvisited {router : Nat} :
    router ∈ unvisited given visited ↔ router ∈ given.map (·.2.source) ∧ router ∉ visited := by
  simp only [unvisited, Finset.mem_sdiff, List.mem_toFinset]

lemma card_unvisited_cons {router : Nat} (h : router ∈ unvisited given visited) :
    (unvisited given (router :: visited)).card < (unvisited given visited).card := by
  rw [unvisited, List.toFinset_cons, Finset.sdiff_insert]
  exact Finset.card_erase_lt_of_mem h

/-- At the beginning, fewer routers are unvisited than there are links. -/
lemma card_unvisited_start (hfirst : first ∈ given) :
    (unvisited given [first.2.source]).card < given.length := by
  have hmem : first.2.source ∈ unvisited given [] :=
    mem_unvisited.2 ⟨List.mem_map_of_mem hfirst, by simp⟩
  calc (unvisited given [first.2.source]).card
      < (unvisited given []).card := card_unvisited_cons hmem
    _ ≤ (given.map (·.2.source)).toFinset.card := Finset.card_le_card Finset.sdiff_subset
    _ ≤ given.length := by simpa using List.toFinset_card_le (given.map (·.2.source))

/-- Links are followed to the end if the bound exceeds the number of unvisited routers. -/
lemma follows_of_lt {n : Nat} (hn : (unvisited given visited).card < n) :
    Follows given first visited (follow given n first visited) := by
  induction n generalizing first visited with
  | zero => omega
  | succ n ih =>
    by_cases hrouter : first.2.sink ∈ visited
    · simp only [follow, List.contains_iff_mem, hrouter, if_true]
      exact .revisits hrouter
    · simp only [follow, List.contains_iff_mem, hrouter, if_false]
      cases hnext : given.find? (·.2.source == first.2.sink) with
      | none => exact .ends hrouter hnext
      | some next =>
        obtain ⟨hmem, hsource⟩ := mem_of_find?_source hnext
        have hunvisited : first.2.sink ∈ unvisited given visited :=
          mem_unvisited.2 ⟨hsource ▸ List.mem_map_of_mem hmem, hrouter⟩
        have hless := card_unvisited_cons hunvisited
        exact .goes hrouter hnext (ih (by omega))

/-- There is only one way to follow links. -/
theorem Follows.unique {o o' : Except ChainFault (List Given)} (h : Follows given first visited o)
    (h' : Follows given first visited o') : o = o' := by
  induction h generalizing o' with
  | revisits hrouter =>
    cases h' with
    | revisits => rfl
    | ends hfresh => exact absurd hrouter hfresh
    | goes hfresh => exact absurd hrouter hfresh
  | ends hfresh hnone =>
    cases h' with
    | revisits hrouter => exact absurd hrouter hfresh
    | ends => rfl
    | goes _ hsome => simp [hnone] at hsome
  | goes hfresh hsome _ ih =>
    cases h' with
    | revisits hrouter => exact absurd hrouter hfresh
    | ends _ hnone => simp [hnone] at hsome
    | goes _ hsome' hrest =>
      obtain rfl := Option.some.inj (hsome.symm.trans hsome')
      rw [ih hrest]

/-- From one of the links, the number of all links is bound enough. -/
theorem follows_follow (hfirst : first ∈ given) :
    Follows given first [first.2.source] (follow given given.length first [first.2.source]) :=
  follows_of_lt (card_unvisited_start hfirst)

theorem Follows.follow_eq {outcome : Except ChainFault (List Given)} (hfirst : first ∈ given)
    (h : Follows given first [first.2.source] outcome) :
    follow given given.length first [first.2.source] = outcome :=
  (follows_follow hfirst).unique h

/-! ### The links that are followed -/

/-- Some of the links are a walk from a router through routers that have not been visited. -/
structure Continues (given : List Given) (visited : List Nat) (router : Nat) (chain : List Given) :
    Prop where
  subset : chain ⊆ given
  walk : ∃ b, IsWalk router (chain.map (·.2)) b
  fresh : ∀ g ∈ chain, g.2.sink ∉ visited
  apart : (chain.map (·.2.sink)).Nodup

/-- Every link that is followed leads to a router that none of the earlier ones has visited. -/
lemma Follows.continues {outcome : Except ChainFault (List Given)}
    (h : Follows given first visited outcome) (hfirst : first ∈ given)
    (hchain : outcome = .ok chain) : Continues given visited first.2.source chain := by
  induction h generalizing chain with
  | revisits => simp at hchain
  | @ends first visited hrouter _ =>
    obtain rfl := Except.ok.inj hchain
    exact ⟨by simpa using hfirst, ⟨first.2.sink, by simp⟩, by simpa using hrouter, by simp⟩
  | @goes first next visited outcome hrouter hnext _ ih =>
    cases outcome with
    | error => simp [Except.map] at hchain
    | ok chain' =>
      obtain rfl : first :: chain' = chain := Except.ok.inj hchain
      obtain ⟨hmem, hsource⟩ := mem_of_find?_source hnext
      obtain ⟨hsub, ⟨b, hwalk⟩, hfresh, hapart⟩ := ih hmem rfl
      refine ⟨?_, ⟨b, ?_⟩, ?_, ?_⟩
      · exact List.cons_subset.2 ⟨hfirst, hsub⟩
      · exact ⟨rfl, hsource ▸ hwalk⟩
      · intro g hg
        rcases List.mem_cons.1 hg with rfl | hg
        · exact hrouter
        · exact fun hvisited => hfresh g hg (List.mem_cons_of_mem _ hvisited)
      · refine List.nodup_cons.2 ⟨fun hsink => ?_, hapart⟩
        obtain ⟨g, hg, hgs⟩ := List.mem_map.1 hsink
        exact hfresh g hg (by simp [hgs])

/-- The links that are followed to an end are some of the links, on a simple path. -/
theorem Follows.isSimplePath (h : Follows given first [first.2.source] (.ok chain))
    (hfirst : first ∈ given) :
    chain ⊆ given ∧ ∃ b, IsSimplePath first.2.source (chain.map (·.2)) b := by
  obtain ⟨hsub, ⟨b, hwalk⟩, hfresh, hapart⟩ := h.continues hfirst rfl
  refine ⟨hsub, b, hwalk, ?_⟩
  rw [visits, List.map_map]
  refine List.nodup_cons.2 ⟨fun hsource => ?_, hapart⟩
  obtain ⟨g, hg, hgs⟩ := List.mem_map.1 hsource
  exact hfresh g hg (by simpa using hgs)

end Chain

end NocRouting
