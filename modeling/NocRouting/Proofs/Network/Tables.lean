import NocRouting.Proofs.Network.Lookup
import NocRouting.Proofs.Network.Ranks

/-!
# The tables of a network

Every operation on a network brings its tables up to date.  On a network that has the tables it
should have, an operation that is accepted leads to one that has them as well, and one that is refused
changes nothing, although it works step by step.

* `Topology.network_addRouter`, `Topology.network_addLink` and `Topology.network_finish` say so of the
  operations that build a network.
* `Topology.routerWithId_network` and its companions say that the tables tell what the lists of
  routers and links tell.
-/

namespace NocRouting

namespace Table

variable {ι κ α : Type} [Key κ]

/-- In a table of items under their keys, what is found is what the first item with that key has. -/
lemma find_map (items : List ι) (key : ι → κ) (val : ι → α) (k : κ) :
    find (items.map fun i => (key i, val i)) k =
      (items.find? fun i => Key.same (key i) k).map val := by
  rw [find, List.find?_map, Option.map_map]
  rfl

lemma has_map (items : List ι) (key : ι → κ) (val : ι → α) (k : κ) :
    has (items.map fun i => (key i, val i)) k = items.any fun i => Key.same (key i) k := by
  rw [has, List.any_map]
  rfl

end Table

namespace Topology

variable {t : Topology}

/-! ### Routers -/

/-- The table of identifiers tells what the list of routers tells. -/
lemma find_ids (id : Value) :
    t.network.ids.find id = (t.routers.find? (·.id.same id)).map (·.index) :=
  Table.find_map t.routers (·.id) (·.index) id

/-- The table of positions tells what the list of routers tells. -/
lemma find_locations (position : Position) :
    t.network.locations.find position =
      (t.routers.find? (·.position.same position)).map (·.index) :=
  Table.find_map t.routers (·.position) (·.index) position

lemma has_ids (id : Value) : t.network.ids.has id = t.routers.any (·.id.same id) :=
  Table.has_map t.routers (·.id) (·.index) id

lemma has_locations (position : Position) :
    t.network.locations.has position = t.routers.any (·.position.same position) :=
  Table.has_map t.routers (·.position) (·.index) position

lemma requireNew_network (id : Value) : t.network.requireNew id =
    if t.routers.any (·.id.same id) then .error (.configuration (.duplicateRouter id))
    else .ok () := by
  rw [← has_ids]
  rfl

namespace IsSound

variable (ht : t.IsSound)
include ht

lemma index_getElem {i : Nat} (hi : i < t.routers.length) : t.routers[i].index = i :=
  ht.index_of_getElem? (List.getElem?_eq_getElem hi)

/-- The number of a router leads to it. -/
lemma itemAt_index {r : Router} (hr : r ∈ t.routers) : itemAt t.routers r.index = .ok r := by
  obtain ⟨i, hi⟩ := List.mem_iff_getElem?.1 hr
  rw [ht.index_of_getElem? hi]
  exact itemAt_ofNat hi

/-- A position that is in use belongs to the router that is found there. -/
lemma requireFree_network (id : Value) (position : Position) :
    t.network.requireFree id position =
      match t.routers.find? (·.position.same position) with
      | some r => .error (.configuration (.positionTaken r.id id position))
      | none => .ok () := by
  cases hfind : t.routers.find? (·.position.same position) with
  | none =>
    rw [Network.requireFree, find_locations, hfind]
    rfl
  | some r =>
    have hitem : itemAt t.network.routers r.index = .ok r :=
      ht.itemAt_index (List.mem_of_find?_eq_some hfind)
    rw [Network.requireFree, find_locations, hfind, Option.map_some]
    simp only [hitem]
    rfl

/-- A router that is new has no links yet, and leaves those of the others as they are. -/
lemma enterRouter_network {r : Router} (hindex : r.index = t.routers.length)
    (hid : t.routers.any (·.id.same r.id) = false)
    (hposition : t.routers.any (·.position.same r.position) = false) :
    Network.enterRouter r t.network =
      .ok () ({ t with routers := t.routers ++ [r] } : Topology).network := by
  have hids := Table.set_of_not_has ((has_ids r.id).trans hid) r.index
  have hlocations := Table.set_of_not_has ((has_locations r.position).trans hposition) r.index
  have hleaving : t.outgoing r.index = [] := by
    rw [outgoing, List.filter_eq_nil_iff]
    intro l hl
    have hlt := ht.source_lt l hl
    simp only [beq_iff_eq]
    omega
  have hentering : t.incoming r.index = [] := by
    rw [incoming, List.filter_eq_nil_iff]
    intro l hl
    have hlt := ht.sink_lt l hl
    simp only [beq_iff_eq]
    omega
  have hrun : Network.enterRouter r t.network = .ok () { t.network with
      routers := t.routers ++ [r]
      ids := t.network.ids.set r.id r.index
      locations := t.network.locations.set r.position r.index
      outgoing := t.network.outgoing ++ [[]]
      incoming := t.network.incoming ++ [[]] } := rfl
  rw [hrun, hids, hlocations]
  simp only [network, List.map_append, List.map_cons, List.map_nil]
  simp only [outgoing, incoming] at hleaving hentering ⊢
  rw [hleaving, hentering]
  rfl

end IsSound

/-- A router is added to the tables exactly if it is added to the list. -/
theorem network_addRouter (ht : t.IsSound) (id : Value) (position : Position) :
    Network.addRouter id position t.network = Steps.ending network t (t.addRouter id position) := by
  rw [Network.addRouter, Steps.get_bind, addRouter]
  refine Steps.bind_eq_ending rfl fun _ _ => Steps.bind_eq_ending rfl fun id _ => ?_
  have hnew := requireNew_network (t := t) id
  cases hid : t.routers.any (·.id.same id) with
  | true =>
    rw [hid] at hnew
    exact Steps.lift_bind_of_error hnew _ _
  | false =>
    rw [hid] at hnew
    refine (Steps.lift_bind_of_ok hnew _ _).trans ?_
    show _ = Steps.ending network t (position.asKey >>= _)
    refine Steps.bind_eq_ending rfl fun position _ => ?_
    have hfree := ht.requireFree_network id position
    cases hposition : t.routers.find? (·.position.same position) with
    | some r =>
      rw [hposition] at hfree
      exact Steps.lift_bind_of_error hfree _ _
    | none =>
      rw [hposition] at hfree
      have hany : t.routers.any (·.position.same position) = false := by
        rw [← List.isSome_find?, hposition]
        rfl
      -- nothing has been written so far, and from here on nothing can fail
      have hrun := ht.enterRouter_network (r := ⟨t.routers.length, id, position⟩) rfl hid hany
      rw [Steps.get_bind, Steps.lift_bind_of_ok hfree, Steps.get_bind]
      exact (Steps.bind_of_ok hrun _).trans rfl

/-! ### Links -/

/-- A number is entered into the list of a router. -/
lemma entered_eq {lists : List (List Nat)} {i : Nat} (hi : i < lists.length) (j : Nat) :
    Network.entered lists i j = .ok (lists.modify i (· ++ [j])) := by
  rw [Network.entered, resolveIndex_ofNat hi]
  rfl

namespace IsSound

variable (ht : t.IsSound)
include ht

/-- A link that is new comes last in the list of the router at its end, and in no other. -/
lemma modify_lists (ends : Link → Nat) (l : Link) :
    (t.routers.map fun r => (t.links.filter (ends · == r.index)).map (·.index)).modify (ends l)
        (· ++ [l.index]) =
      t.routers.map fun r => ((t.links ++ [l]).filter (ends · == r.index)).map (·.index) := by
  refine List.ext_getElem (by simp) fun i hi _ => ?_
  have hlt : i < t.routers.length := by simpa using hi
  rw [List.getElem_modify, List.getElem_map, List.getElem_map, List.filter_append, List.map_append,
    ht.index_getElem hlt]
  by_cases hends : ends l = i
  · rw [if_pos hends, List.filter_cons_of_pos (by simpa using hends), List.filter_nil]
    rfl
  · rw [if_neg hends, List.filter_cons_of_neg (by simpa using hends), List.filter_nil,
      List.map_nil, List.append_nil]

/-- A link whose ends are routers is entered into all tables. -/
lemma enterLink_network {l : Link} (hsource : l.shownSource.value = l.source)
    (hsink : l.shownSink.value = l.sink) (hsource_lt : l.source < t.routers.length)
    (hsink_lt : l.sink < t.routers.length) :
    Network.enterLink l t.network =
      .ok () ({ t with links := t.links ++ [l] } : Topology).network := by
  have hleaving : Network.entered t.network.outgoing l.shownSource.value l.index =
      .ok (({ t with links := t.links ++ [l] } : Topology).network).outgoing := by
    rw [hsource, entered_eq (by simpa [network] using hsource_lt)]
    exact congrArg _ (ht.modify_lists (·.source) l)
  have hentering : Network.entered t.network.incoming l.shownSink.value l.index =
      .ok (({ t with links := t.links ++ [l] } : Topology).network).incoming := by
    rw [hsink, entered_eq (by simpa [network] using hsink_lt)]
    exact congrArg _ (ht.modify_lists (·.sink) l)
  refine (Steps.lift_bind_of_ok hleaving _ _).trans ?_
  exact (Steps.lift_bind_of_ok hentering _ _).trans rfl

end IsSound

/-- A link is added to the tables exactly if it is added to the list. -/
theorem network_addLink (ht : t.IsSound) (source sink : Value) :
    Network.addLink source sink t.network = Steps.ending network t (t.addLink source sink) := by
  rw [Network.addLink, Steps.get_bind, addLink]
  refine Steps.bind_eq_ending rfl fun _ _ => ?_
  rw [Steps.get_bind]
  refine Steps.bind_eq_ending rfl fun _ hsource => ?_
  rw [Steps.get_bind]
  refine Steps.bind_eq_ending rfl fun _ hsink => ?_
  refine Steps.bind_eq_ending rfl fun tail htail => ?_
  rw [Steps.get_bind]
  refine Steps.bind_eq_ending rfl fun a ha => ?_
  have hapart : Network.requireApart source sink a =
      if source.eqv sink then .error (.configuration (.selfLink a.id)) else .ok () := rfl
  cases hself : source.eqv sink with
  | true =>
    rw [hself] at hapart
    exact Steps.lift_bind_of_error hapart _ _
  | false =>
    rw [hself] at hapart
    refine (Steps.lift_bind_of_ok hapart _ _).trans ?_
    show _ = Steps.ending network t (Index.ofValue sink >>= _)
    refine Steps.bind_eq_ending rfl fun head hhead => ?_
    rw [Steps.get_bind]
    refine Steps.bind_eq_ending rfl fun b hb => ?_
    refine Steps.bind_eq_ending rfl fun direction _ => ?_
    rw [Steps.get_bind]
    -- the ends have been found to be routers, so there are lists for both of them
    obtain ⟨htail₀, htail_lt⟩ := requireRouter_eq_ok hsource htail
    obtain ⟨hhead₀, hhead_lt⟩ := requireRouter_eq_ok hsink hhead
    have hai := ht.index_of_getElem? (routerAtIndex_eq_ok htail₀ ha)
    have hbi := ht.index_of_getElem? (routerAtIndex_eq_ok hhead₀ hb)
    have hrun := ht.enterLink_network (l := ⟨t.links.length, a.index, b.index, tail, head,
      direction, t.linkBandwidth, t.linkLatency⟩) (by simp only [hai]; omega)
      (by simp only [hbi]; omega) (by simp only [hai]; omega) (by simp only [hbi]; omega)
    rw [hai, hbi] at hrun ⊢
    exact (Steps.bind_of_ok hrun _).trans rfl

/-! ### Ranks -/

/-- A network is finished with the compressed positions that its routers should have. -/
theorem network_finish (ht : t.HasWholePositions) :
    Network.finish t.network = Steps.ending network t (t.finish.map (·, ())) := by
  rw [Network.finish, Steps.get_bind]
  cases hbuilt : t.compressed with
  | some positions =>
    have hrefused : t.requireUnbuilt = .error (.order .alreadyBuilt) := by
      rw [requireUnbuilt, isBuilt, hbuilt]
      rfl
    rw [finish, hrefused]
    exact Steps.lift_bind_of_error hrefused _ _
  | none =>
    have hxs : ∀ v ∈ t.routers.map (·.position.x), v.IsWhole :=
      List.forall_mem_map.2 fun r hr => (ht r hr).x
    have hys : ∀ v ∈ t.routers.map (·.position.y), v.IsWhole :=
      List.forall_mem_map.2 fun r hr => (ht r hr).y
    obtain ⟨columns, hcolumns, hx⟩ := Network.exists_ranks hxs
    obtain ⟨rows, hrows, hy⟩ := Network.exists_ranks hys
    -- every coordinate is in its table, under its rank
    have hmap : Network.compressedBy columns rows t.routers = .ok (compress t.routers) := by
      rw [Network.compressedBy, Except.mapM_eq_ok, compress, List.forall₂_map_right_iff,
        List.forall₂_same]
      intro r hr
      rw [hx _ (List.mem_map_of_mem hr), hy _ (List.mem_map_of_mem hr)]
      rfl
    rw [finish_eq hbuilt ht]
    refine (Steps.lift_bind_of_ok (requireUnbuilt_eq hbuilt) _ _).trans ?_
    rw [Steps.get_bind]
    refine (Steps.lift_bind_of_ok hcolumns _ _).trans ?_
    refine (Steps.lift_bind_of_ok hrows _ _).trans ?_
    exact (Steps.lift_bind_of_ok hmap _ _).trans rfl

/-! ### Reading -/

lemma routerWithId_network (id : Value) : t.network.routerWithId id = t.routerWithId id := by
  rw [Network.routerWithId, routerWithId]
  cases id.asKey with
  | error fault => rfl
  | ok id =>
    rw [Except.ok_bind, Except.ok_bind, find_ids]
    cases t.routers.find? (·.id.same id) <;> rfl

lemma find_network (x y layer : Value) :
    Network.routerAt.find t.network x y layer = routerAt.find t x y layer := by
  rw [Network.routerAt.find, routerAt.find]
  cases (Position.mk x y layer).asKey with
  | error fault => rfl
  | ok position =>
    rw [Except.ok_bind, Except.ok_bind, find_locations]
    cases t.routers.find? (·.position.same position) <;> rfl

lemma routerAt_network (location : List Value) :
    t.network.routerAt location = t.routerAt location := by
  unfold Network.routerAt routerAt
  split <;> simp only [find_network]

lemma lt_of_resolveIndex {length i : Nat} {index : Int} (h : resolveIndex length index = .ok i) :
    i < length := by
  simp only [resolveIndex] at h
  generalize (if index < 0 then index + length else index) = j at h
  split at h
  · obtain rfl := Except.ok.inj h
    omega
  · cases h

/-- A table with a list for every router is read at the number of a router. -/
lemma IsSound.itemAt_lists (ht : t.IsSound) (list : Nat → List Nat) (index : Int) :
    itemAt (t.routers.map fun r => list r.index) index =
      (do return list (← resolveIndex t.routers.length index)) := by
  rw [itemAt, List.length_map]
  cases hresolve : resolveIndex t.routers.length index with
  | error fault => rfl
  | ok i =>
    have hi := lt_of_resolveIndex hresolve
    rw [Except.ok_bind, Except.ok_bind, List.getElem?_map, List.getElem?_eq_getElem hi,
      Option.map_some, ht.index_getElem hi]

lemma IsSound.outgoingAt_network (ht : t.IsSound) (index : Int) :
    t.network.outgoingAt index = t.outgoingAt index :=
  ht.itemAt_lists (fun i => (t.outgoing i).map Link.index) index

lemma IsSound.incomingAt_network (ht : t.IsSound) (index : Int) :
    t.network.incomingAt index = t.incomingAt index :=
  ht.itemAt_lists (fun i => (t.incoming i).map Link.index) index

/-- The routers and links themselves are kept as they are, beside the tables. -/
lemma topology_network (t : Topology) : t.network.topology = t := rfl

/-- Compressed positions are kept in a list, with no table beside it. -/
lemma compressedAt_network (index : Value) : t.network.compressedAt index = t.compressedAt index :=
  rfl

end Topology

end NocRouting
