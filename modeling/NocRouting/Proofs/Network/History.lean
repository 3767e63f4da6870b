import NocRouting.Proofs.Network.Tables

/-!
# The history of a network

A network is built by asking it for changes, one after the other.  A change that is refused leaves it
as it was, and once it is finished every change is refused.  Whatever is asked of a network, its
routers and links can be found again: by number, by identifier, by position and at the routers that
they join.

* `Network.history` is the network after some changes have been asked of it.
* `Network.IsConsistent` says that all ways of finding routers and links agree with each other.
* `Network.history_isConsistent` says that they do after any history, and how histories end.
-/

namespace NocRouting

namespace Network

/-! ### Changes -/

/-- A change that is asked of a network. -/
inductive Change where
  | addRouter (id : Value) (position : Position)
  | addLink (source sink : Value)
  | finish

/-- The change puts no router at a position that is not whole. -/
def Change.IsWhole : Change → Prop
  | .addRouter _ position => position.IsWhole
  | _ => True

/-- Ask a network for a change. -/
def change : Change → Steps Network Unit
  | .addRouter id position => do let _ ← addRouter id position
  | .addLink source sink => do let _ ← addLink source sink
  | .finish => finish

/-- What a change leaves of a network, whether it is accepted or refused. -/
def after (n : Network) (c : Change) : Network :=
  Steps.left (change c n)

/-- The network after some changes have been asked of it. -/
def history (n : Network) (changes : List Change) : Network :=
  changes.foldl after n

end Network

namespace Topology

open Network (Change)

/-- What a change makes of a network, or why it is refused. -/
def change (t : Topology) : Change → Except Fault Topology
  | .addRouter id position => (t.addRouter id position).map (·.1)
  | .addLink source sink => (t.addLink source sink).map (·.1)
  | .finish => t.finish

variable {t t' : Topology} {c : Change} {changes : List Change}

lemma reachable_of_change (ht : t.Reachable) (h : t.change c = .ok t') : t'.Reachable := by
  cases c with
  | addRouter id position =>
    obtain ⟨⟨t', r⟩, hadd, rfl⟩ := Except.map_eq_ok.1 h
    exact .addRouter id position ht hadd
  | addLink source sink =>
    obtain ⟨⟨t', l⟩, hadd, rfl⟩ := Except.map_eq_ok.1 h
    exact .addLink source sink ht hadd
  | finish => exact .finish ht h

lemma hasWholePositions_of_change (ht : t.HasWholePositions) (hc : c.IsWhole)
    (h : t.change c = .ok t') : t'.HasWholePositions := by
  cases c with
  | addRouter id position =>
    obtain ⟨⟨t', r⟩, hadd, rfl⟩ := Except.map_eq_ok.1 h
    obtain ⟨-, -, -, -, -, rfl, rfl⟩ := addRouter_eq_ok hadd
    intro r hr
    rcases List.mem_append.1 hr with hr | hr
    · exact ht r hr
    · obtain rfl := List.mem_singleton.1 hr
      exact hc
  | addLink source sink =>
    obtain ⟨⟨t', l⟩, hadd, rfl⟩ := Except.map_eq_ok.1 h
    obtain ⟨_, _, _, _, _, -, -, -, -, -, -, -, -, -, -, rfl⟩ := addLink_eq_ok hadd
    exact ht
  | finish =>
    obtain ⟨-, -, rfl⟩ := finish_eq_ok h
    exact ht

/-- A finished network refuses every change. -/
lemma change_eq_error (hbuilt : t.isBuilt = true) : t.change c = .error (.order .alreadyBuilt) := by
  have hrefused : t.requireUnbuilt = .error (.order .alreadyBuilt) := if_pos hbuilt
  cases c with
  | addRouter id position =>
    simp only [change, addRouter, hrefused, Except.error_bind]
    rfl
  | addLink source sink =>
    simp only [change, addLink, hrefused, Except.error_bind]
    rfl
  | finish =>
    simp only [change, finish, hrefused, Except.error_bind]

/-- Only a network that is not finished is changed, and only finishing it makes it a finished
one. -/
lemma isBuilt_of_change (h : t.change c = .ok t') :
    t.isBuilt = false ∧ (t'.isBuilt = true ↔ c = .finish) := by
  cases c with
  | addRouter id position =>
    obtain ⟨⟨t', r⟩, hadd, rfl⟩ := Except.map_eq_ok.1 h
    obtain ⟨hnone, -, -, -, -, rfl, rfl⟩ := addRouter_eq_ok hadd
    simp [isBuilt, hnone]
  | addLink source sink =>
    obtain ⟨⟨t', l⟩, hadd, rfl⟩ := Except.map_eq_ok.1 h
    obtain ⟨_, _, _, _, _, hnone, -, -, -, -, -, -, -, -, -, rfl⟩ := addLink_eq_ok hadd
    simp [isBuilt, hnone]
  | finish =>
    obtain ⟨hnone, -, rfl⟩ := finish_eq_ok h
    simp [isBuilt, hnone]

/-- A change in steps ends as the change does. -/
lemma change_network (ht : t.Reachable) (hwhole : t.HasWholePositions) (c : Change) :
    Network.change c t.network = Steps.ending network t ((t.change c).map (·, ())) := by
  cases c with
  | addRouter id position =>
    show (Network.addRouter id position >>= fun _ => pure ()) t.network = _
    have hsquare := network_addRouter ht.isSound id position
    rw [change]
    cases hadd : t.addRouter id position with
    | ok added =>
      rw [hadd] at hsquare
      exact Steps.bind_of_ok hsquare _
    | error fault =>
      rw [hadd] at hsquare
      exact Steps.bind_of_error hsquare _
  | addLink source sink =>
    show (Network.addLink source sink >>= fun _ => pure ()) t.network = _
    have hsquare := network_addLink ht.isSound source sink
    rw [change]
    cases hadd : t.addLink source sink with
    | ok added =>
      rw [hadd] at hsquare
      exact Steps.bind_of_ok hsquare _
    | error fault =>
      rw [hadd] at hsquare
      exact Steps.bind_of_error hsquare _
  | finish => exact network_finish hwhole

/-- A change leaves a network with the tables that it should have. -/
lemma exists_after (ht : t.Reachable) (hwhole : t.HasWholePositions) (hc : c.IsWhole) :
    ∃ t' : Topology, t'.Reachable ∧ t'.HasWholePositions ∧ t.network.after c = t'.network ∧
      (t'.isBuilt = true ↔ t.isBuilt = true ∨ c = .finish) := by
  have hend := change_network ht hwhole c
  cases hchange : t.change c with
  | ok t' =>
    rw [hchange] at hend
    obtain ⟨hbuilt, hfinish⟩ := isBuilt_of_change hchange
    refine ⟨t', reachable_of_change ht hchange, hasWholePositions_of_change hwhole hc hchange,
      congrArg Steps.left hend, ?_⟩
    rw [hfinish, hbuilt]
    simp
  | error fault =>
    rw [hchange] at hend
    refine ⟨t, ht, hwhole, congrArg Steps.left hend, Or.inl, ?_⟩
    rintro (hbuilt | rfl)
    · exact hbuilt
    · by_contra hbuilt
      have hnone : t.compressed = none := by simpa [isBuilt] using hbuilt
      rw [change, finish_eq hnone hwhole] at hchange
      cases hchange

/-- So does a whole history. -/
lemma exists_history (ht : t.Reachable) (hwhole : t.HasWholePositions)
    (hchanges : ∀ c ∈ changes, c.IsWhole) :
    ∃ t' : Topology, t'.Reachable ∧ t'.HasWholePositions ∧ t.network.history changes = t'.network ∧
      (t'.isBuilt = true ↔ t.isBuilt = true ∨ Change.finish ∈ changes) := by
  induction changes generalizing t with
  | nil => exact ⟨t, ht, hwhole, rfl, by simp⟩
  | cons c changes ih =>
    obtain ⟨hc, hmore⟩ := List.forall_mem_cons.1 hchanges
    obtain ⟨t₁, ht₁, hwhole₁, hafter, hbuilt₁⟩ := exists_after ht hwhole hc
    obtain ⟨t₂, ht₂, hwhole₂, hhistory, hbuilt₂⟩ := ih ht₁ hwhole₁ hmore
    refine ⟨t₂, ht₂, hwhole₂, ?_, ?_⟩
    · show (t.network.after c).history changes = _
      rw [hafter, hhistory]
    · rw [hbuilt₂, hbuilt₁, List.mem_cons, or_assoc, eq_comm (a := c)]

/-- A finished network is not changed any more. -/
lemma history_network_of_isBuilt (ht : t.Reachable) (hwhole : t.HasWholePositions)
    (hbuilt : t.isBuilt = true) : t.network.history changes = t.network := by
  induction changes with
  | nil => rfl
  | cons c changes ih =>
    have hend := change_network ht hwhole c
    rw [change_eq_error hbuilt] at hend
    have hafter : t.network.after c = t.network := congrArg Steps.left hend
    show (t.network.after c).history changes = _
    rw [hafter, ih]

end Topology

namespace Network

/-! ### Consistency -/

/-- All ways of finding routers and links agree with each other. -/
structure IsConsistent (n : Network) : Prop where
  router_index : ∀ i (r : Router), n.routers[i]? = some r → r.index = i
  link_index : ∀ j (l : Link), n.links[j]? = some l → l.index = j
  ids : n.routers.Pairwise fun p q => p.id.same q.id = false
  positions : n.routers.Pairwise fun p q => p.position.same q.position = false
  /-- A router is found by its identifier. -/
  withId : ∀ id i, n.routerWithId id = .ok i ↔
    ∃ r, n.routers[i]? = some r ∧ r.id.same id = true
  /-- A router is found by its position. -/
  at_position : ∀ x y layer i, n.routerAt [x, y, layer] = .ok i ↔
    ∃ r, n.routers[i]? = some r ∧ r.position.same ⟨x, y, layer⟩ = true
  at_lowest : ∀ x y, n.routerAt [x, y] = n.routerAt [x, y, .int 0]
  /-- A link joins two routers, and has the direction in which one lies from the other. -/
  joins : ∀ l ∈ n.links, l.source ≠ l.sink ∧ ∃ a b, n.routers[l.source]? = some a ∧
    n.routers[l.sink]? = some b ∧ a.position.Heads b.position l.direction
  /-- There is a list of links for every router, and no other. -/
  lists : n.outgoing.length = n.routers.length ∧ n.incoming.length = n.routers.length
  outgoing : ∀ i < n.routers.length, ∃ js, n.outgoingAt i = .ok js ∧ js.Pairwise (· < ·) ∧
    ∀ j, j ∈ js ↔ ∃ l, n.links[j]? = some l ∧ l.source = i
  incoming : ∀ i < n.routers.length, ∃ js, n.incomingAt i = .ok js ∧ js.Pairwise (· < ·) ∧
    ∀ j, j ∈ js ↔ ∃ l, n.links[j]? = some l ∧ l.sink = i
  /-- A link leaves one router, and enters one. -/
  once : ∀ j < n.links.length,
    (∃! i, i < n.routers.length ∧ ∃ js, n.outgoingAt i = .ok js ∧ j ∈ js) ∧
    ∃! i, i < n.routers.length ∧ ∃ js, n.incomingAt i = .ok js ∧ j ∈ js
  compressed : ∀ positions, n.compressed = some positions →
    positions = Topology.compress n.routers

/-- The number of a link is listed once, if the lists of some routers hold the links with an end
there. -/
lemma existsUnique_of_lists {n : Nat} {list : Nat → Except Fault (List Nat)} {ends : Link → Nat}
    {links : List Link}
    (hlist : ∀ i < n, ∃ js, list i = .ok js ∧ js.Pairwise (· < ·) ∧
      ∀ j, j ∈ js ↔ ∃ l, links[j]? = some l ∧ ends l = i)
    (hends : ∀ l ∈ links, ends l < n) {j : Nat} (hj : j < links.length) :
    ∃! i, i < n ∧ ∃ js, list i = .ok js ∧ j ∈ js := by
  have hlink := List.getElem?_eq_getElem hj
  have hlt := hends _ (List.getElem_mem hj)
  obtain ⟨js, hjs, -, hmem⟩ := hlist _ hlt
  refine ⟨ends links[j], ⟨hlt, js, hjs, (hmem j).2 ⟨_, hlink, rfl⟩⟩, ?_⟩
  rintro i ⟨hi, js', hjs', hj'⟩
  obtain ⟨js'', hjs'', -, hmem'⟩ := hlist i hi
  obtain rfl := Except.ok.inj (hjs'.symm.trans hjs'')
  obtain ⟨l, hl, rfl⟩ := (hmem' j).1 hj'
  rw [Option.some.inj (hlink.symm.trans hl)]

end Network

/-- The tables of a network with routers at whole positions are consistent. -/
theorem Topology.Reachable.isConsistent {t : Topology} (h : t.Reachable)
    (hwhole : t.HasWholePositions) : t.network.IsConsistent where
  router_index _ _ hr := h.isSound.index_of_getElem? hr
  link_index _ _ hl := h.link_index_of_getElem? hl
  ids := h.isIdentified.apart
  positions := h.isPlaced.apart
  withId id i := by
    rw [routerWithId_network]
    exact h.routerWithId_eq_ok_iff
  at_position x y layer i := by
    rw [routerAt_network]
    exact h.routerAt_eq_ok_iff
  at_lowest _ _ := rfl
  joins := by
    intro l hl
    obtain ⟨a, b, ha, hb, hdir⟩ := h.isPlaced.direction l hl
    have hne := h.isSound.source_ne_sink l hl
    have hma := List.mem_of_getElem? ha
    have hmb := List.mem_of_getElem? hb
    have hwa := hwhole a hma
    have hwb := hwhole b hmb
    -- routers with different numbers are not at one position
    have hapart : a.position.same b.position = false := by
      by_contra hsame
      have hab : a = b := h.eq_of_position_same hma hmb (by simpa using hsame)
        (Position.same_self hwb.isKey)
      rw [← h.isSound.index_of_getElem? ha, ← h.isSound.index_of_getElem? hb, hab] at hne
      exact hne rfl
    exact ⟨hne, a, b, ha, hb, (directionBetween_eq_ok_iff hwa hwb hapart).1 hdir⟩
  lists := ⟨List.length_map _, List.length_map _⟩
  outgoing i hi := by
    rw [h.isSound.outgoingAt_network]
    exact h.exists_outgoingAt hi
  incoming i hi := by
    rw [h.isSound.incomingAt_network]
    exact h.exists_incomingAt hi
  once j hj := by
    simp only [h.isSound.outgoingAt_network, h.isSound.incomingAt_network]
    exact ⟨Network.existsUnique_of_lists (fun _ hi => h.exists_outgoingAt hi)
        h.isSound.source_lt hj,
      Network.existsUnique_of_lists (fun _ hi => h.exists_incomingAt hi) h.isSound.sink_lt hj⟩
  compressed := h.isPlaced.compressed

namespace Network

/-- After any history, a network is consistent, is finished exactly if that was asked of it, and is
not changed by anything that is refused, which is everything after that. -/
theorem history_isConsistent (linkBandwidth linkLatency routerLatency : Value)
    {changes : List Change} (h : ∀ c ∈ changes, c.IsWhole) :
    let n := (bare linkBandwidth linkLatency routerLatency).history changes
    n.IsConsistent ∧ (∀ c fault n', change c n = .error fault n' → n' = n) ∧
      (n.isBuilt = true ↔ .finish ∈ changes) ∧
      (.finish ∈ changes → ∀ c more, change c n = .error (.order .alreadyBuilt) n ∧
        n.history more = n) := by
  intro n
  have hwhole : (Topology.bare linkBandwidth linkLatency routerLatency).HasWholePositions := by
    simp [Topology.HasWholePositions, Topology.bare]
  obtain ⟨t, ht, hwhole', hn, hbuilt⟩ :=
    Topology.exists_history (.bare linkBandwidth linkLatency routerLatency) hwhole h
  change n = t.network at hn
  rw [hn]
  have hfinish : t.isBuilt = true ↔ .finish ∈ changes := by
    rw [hbuilt]
    simp [Topology.bare, Topology.isBuilt]
  refine ⟨ht.isConsistent hwhole', ?_, hfinish, ?_⟩
  · intro c fault n' hrefused
    rw [Topology.change_network ht hwhole'] at hrefused
    cases hchange : t.change c with
    | ok t' =>
      rw [hchange] at hrefused
      cases hrefused
    | error fault' =>
      rw [hchange] at hrefused
      exact (EStateM.Result.error.inj hrefused).2.symm
  · intro hasked c more
    have hdone := hfinish.2 hasked
    refine ⟨?_, Topology.history_network_of_isBuilt ht hwhole' hdone⟩
    rw [Topology.change_network ht hwhole', Topology.change_eq_error hdone]
    rfl

/-- A history with changes that are refused: an identifier and a position are in use, a link leads
back to its router, one leads nowhere, one is crooked, and one comes too late. -/
def refusals : List Change :=
  [.addRouter (.int 7) (.ofInts 0 0 0), .addRouter (.number (.float 7.0)) (.ofInts 5 0 0),
    .addRouter (.text "b") (.ofInts 4 0 0), .addRouter (.text "c") (.ofInts 4 0 0),
    .addRouter .null (.ofInts 4 0 1), .addRouter (.int 9) (.ofInts (-2) 3 0),
    .addLink (.int 1) (.int 0), .addLink (.int 1) (.int 1), .addLink (.int 1) (.bool false),
    .addLink (.int 2) (.int 8), .addLink (.int 1) (.int 2), .addLink (.int 0) (.int 3), .finish,
    .addLink (.int 2) (.int 1)]

/-- After those changes there are four routers and three links, as there should be. -/
theorem refusals_isConsistent :
    let n := (bare (.int 64) (.int 1) (.int 1)).history refusals
    (∀ c ∈ refusals, c.IsWhole) ∧ n.IsConsistent ∧ n.isBuilt = true ∧
      n.routers.map (·.index) = [0, 1, 2, 3] ∧
      n.links.map (fun l => (l.source, l.sink, l.direction)) =
        [(1, 0, some .west), (1, 0, some .west), (1, 2, none)] ∧
      n.ids.map (·.2) = [0, 1, 2, 3] ∧ n.outgoing = [[], [0, 1, 2], [], []] ∧
      n.incoming = [[0, 1], [], [2], []] ∧
      n.compressed.map (·.map fun p => (p.x, p.y)) = some [(1, 0), (2, 0), (2, 0), (0, 1)] ∧
      n.history refusals = n := by
  intro n
  have hwhole : ∀ c ∈ refusals, c.IsWhole := by
    simp [refusals, Change.IsWhole, Position.isWhole_ofInts]
  obtain ⟨hconsistent, -, hbuilt, hrefused⟩ := history_isConsistent (.int 64) (.int 1) (.int 1) hwhole
  have hfinish : Change.finish ∈ refusals := by
    simp [refusals]
  exact ⟨hwhole, hconsistent, hbuilt.2 hfinish, by decide +kernel, by decide +kernel,
    by decide +kernel, by decide +kernel, by decide +kernel, by decide +kernel,
    (hrefused hfinish .finish refusals).2⟩

end Network

end NocRouting
