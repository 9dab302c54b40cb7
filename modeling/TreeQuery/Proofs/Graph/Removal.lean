import Mathlib.Data.List.Forall2
import TreeQuery.Proofs.Graph.History

set_option autoImplicit false

/-! # Deleting several nodes

Deleting nodes by force, one after another, moves the head now and then and strikes a relation
between two of them with whichever goes first. What is left does not depend on the order:
`Graph.without` says what it is in one go. One deletion is the case of one node
(`WellFormed.on_forceDeleteNode`), and deleting in two stages is deleting at once
(`without_without`), so a whole run of deletions follows by induction (`WellFormed.replay_forced`).
If no node is left, what is left is what clearing the graph leaves. -/

namespace TreeQuery

/-! ## Nodes -/

/-- A node that lists no relations. -/
def Node.detached (node : Node) : Node := { node with incoming := [], outgoing := [] }

/-- A node that lists, of its relations, only the given ones. -/
def Node.restrict (kept : List RelationId) (node : Node) : Node :=
  { node with
    incoming := node.incoming.filter (· ∈ kept)
    outgoing := node.outgoing.filter (· ∈ kept) }

theorem Node.restrict_restrict (node : Node) {kept kept' : List RelationId} (h : kept' ⊆ kept) :
    (node.restrict kept).restrict kept' = node.restrict kept' := by
  have hboth : ∀ rs : List RelationId,
      (rs.filter (· ∈ kept)).filter (· ∈ kept') = rs.filter (· ∈ kept') := by
    intro rs
    rw [List.filter_filter]
    refine List.filter_congr fun r _ => ?_
    by_cases hr : r ∈ kept'
    · simp [hr, h hr]
    · simp [hr]
  simp only [restrict, hboth]

namespace Graph

/-! ## What is left -/

/-- The relations that have none of the given nodes as an end. -/
def relationsWithout (g : Graph) (doomed : List NodeId) : OrderedMap RelationId Relation :=
  g.relations.filter fun _ relation => relation.source ∉ doomed ∧ relation.target ∉ doomed

/-- What is left of a graph without the given nodes: the other nodes with the relations between
them, all in their old order. The head stays if it is left; otherwise it is the oldest node that is
left. -/
def without (g : Graph) (doomed : List NodeId) : Graph where
  nodes := (g.nodes.filter fun id _ => id ∉ doomed).mapValues fun _ node =>
    node.restrict (g.relationsWithout doomed).keys
  relations := g.relationsWithout doomed
  head := (g.head.filter (· ∉ doomed)).or (g.nodes.keys.find? (· ∉ doomed))
  nextNode := g.nextNode
  nextRelation := g.nextRelation

variable {g : Graph} {doomed : List NodeId} {id : NodeId}

theorem get?_relationsWithout {r : RelationId} {relation : Relation} :
    (g.relationsWithout doomed).get? r = some relation ↔
      g.relations.get? r = some relation ∧ relation.source ∉ doomed ∧ relation.target ∉ doomed := by
  rw [relationsWithout, OrderedMap.get?_filter_eq_some_iff, decide_eq_true_eq]

theorem keys_without (g : Graph) (doomed : List NodeId) :
    (g.without doomed).nodes.keys = g.nodes.keys.filter (· ∉ doomed) := by
  rw [without, OrderedMap.keys_mapValues, OrderedMap.keys, OrderedMap.entries_filter,
    OrderedMap.keys, List.filter_map]
  rfl

theorem exists_of_get?_without {left : Node} (h : (g.without doomed).nodes.get? id = some left) :
    ∃ node, g.nodes.get? id = some node ∧
      node.restrict (g.relationsWithout doomed).keys = left := by
  rw [without, OrderedMap.get?_mapValues] at h
  obtain ⟨node, hn, hleft⟩ := Option.map_eq_some_iff.1 h
  exact ⟨node, (OrderedMap.get?_filter_eq_some_iff.1 hn).1, hleft⟩

/-- What is left depends on which nodes go, not on how they are listed. -/
theorem without_congr {doomed' : List NodeId} (h : ∀ id, id ∈ doomed ↔ id ∈ doomed') :
    g.without doomed = g.without doomed' := by
  simp only [without, relationsWithout, h]

/-! ## Two stages -/

theorem relationsWithout_without (g : Graph) (doomed doomed' : List NodeId) :
    (g.without doomed).relationsWithout doomed' = g.relationsWithout (doomed ++ doomed') := by
  ext1
  simp only [relationsWithout, without, OrderedMap.entries_filter, List.filter_filter]
  refine List.filter_congr fun e _ => ?_
  rw [Bool.eq_iff_iff]
  simp only [Bool.and_eq_true, decide_eq_true_eq, List.mem_append, not_or]
  rw [and_comm, and_and_and_comm]

theorem keys_relationsWithout_subset (g : Graph) (doomed doomed' : List NodeId) :
    (g.relationsWithout (doomed ++ doomed')).keys ⊆ (g.relationsWithout doomed).keys := by
  rw [← relationsWithout_without]
  exact (OrderedMap.keys_filter_sublist _ _).subset

/-- Nothing that passes two tests comes before what passes one of them first. -/
theorem filter_find?_or_find? {α : Type} (xs : List α) (p q : α → Bool) :
    ((xs.find? p).filter q).or (xs.find? fun x => p x && q x) = xs.find? fun x => p x && q x := by
  induction xs with
  | nil => rfl
  | cons x rest ih =>
      by_cases hp : p x = true
      · cases hq : q x <;> simp [Option.filter, hp, hq]
      · simpa [hp] using ih

/-- Deleting in two stages is deleting at once. -/
theorem without_without (g : Graph) (doomed doomed' : List NodeId) :
    (g.without doomed).without doomed' = g.without (doomed ++ doomed') := by
  have hnodes : ((g.without doomed).nodes.filter fun id _ => id ∉ doomed').mapValues
      (fun _ node => node.restrict (g.relationsWithout (doomed ++ doomed')).keys) =
        (g.nodes.filter fun id _ => id ∉ doomed ++ doomed').mapValues
          fun _ node => node.restrict (g.relationsWithout (doomed ++ doomed')).keys := by
    ext1
    simp only [without, OrderedMap.entries_mapValues, OrderedMap.entries_filter, List.filter_map,
      List.map_map, List.filter_filter, Function.comp_def,
      Node.restrict_restrict _ (keys_relationsWithout_subset g doomed doomed')]
    simp [not_or, Bool.and_comm]
  have hhead : ((g.without doomed).head.filter (· ∉ doomed')).or
      ((g.without doomed).nodes.keys.find? (· ∉ doomed')) =
        (g.head.filter (· ∉ doomed ++ doomed')).or
          (g.nodes.keys.find? (· ∉ doomed ++ doomed')) := by
    have hkeys : (g.nodes.keys.find? fun id => id ∉ doomed ++ doomed') =
        g.nodes.keys.find? fun id => (id ∉ doomed) && id ∉ doomed' := by
      simp [not_or]
    have hmoved := filter_find?_or_find? g.nodes.keys (fun id => id ∉ doomed) fun id => id ∉ doomed'
    rw [keys_without, List.find?_filter, hkeys]
    cases hhead : g.head with
    | none => simpa [without, hhead] using hmoved
    | some head =>
        by_cases hgone : head ∈ doomed
        · simpa [without, hhead, Option.filter, hgone] using hmoved
        · simp [without, hhead, Option.filter, hgone]
  rw [without, relationsWithout_without, hnodes, hhead]
  rfl

/-! ## One deletion -/

namespace WellFormed

/-- What a node lists is struck with another node exactly if it does not survive that node. -/
theorem strike_eq_restrict (h : g.WellFormed) {node gone : Node} {id' : NodeId}
    (hn : g.nodes.get? id = some node) (hgone : g.nodes.get? id' = some gone) :
    node.strike (gone.incoming ++ gone.outgoing) =
      node.restrict (g.relationsWithout [id']).keys := by
  have hmem : ∀ r ∈ node.incoming ++ node.outgoing, r ∉ gone.incoming ++ gone.outgoing ↔
      r ∈ (g.relationsWithout [id']).keys := by
    intro r hr
    obtain ⟨relation, hget, -⟩ := (h.mem_incident hn).1 hr
    rw [h.mem_incident hgone, OrderedMap.mem_keys_iff]
    simp [get?_relationsWithout, hget, Relation.Touches]
  have hfilter : ∀ rs : List RelationId, (∀ r ∈ rs, r ∈ node.incoming ++ node.outgoing) →
      rs.filter (· ∉ gone.incoming ++ gone.outgoing) =
        rs.filter (· ∈ (g.relationsWithout [id']).keys) := fun rs hrs =>
    List.filter_congr fun r hr => decide_eq_decide.2 (hmem r (hrs r hr))
  rw [Node.strike, Node.restrict, hfilter _ fun r hr => List.mem_append_left _ hr,
    hfilter _ fun r hr => List.mem_append_right _ hr]

/-- What is left without one node is what its deletion leaves. -/
theorem dropNode_strike (h : g.WellFormed) {node : Node} (hn : g.nodes.get? id = some node) :
    dropNode id (g.strike (node.incoming ++ node.outgoing)) = g.without [id] := by
  have hrelations : (g.relations.filter fun r _ => r ∉ node.incoming ++ node.outgoing) =
      g.relationsWithout [id] := by
    ext1
    refine List.filter_congr fun e he => decide_eq_decide.2 ?_
    rw [h.mem_incident hn]
    simp [OrderedMap.get?_eq_some_iff.2 he, Relation.Touches]
  have hnodes : (g.nodes.mapValues fun _ old => old.strike (node.incoming ++ node.outgoing)).erase
      id = (g.nodes.filter fun id' _ => id' ∉ [id]).mapValues fun _ old =>
        old.restrict (g.relationsWithout [id]).keys := by
    ext1
    have hkept : (g.nodes.entries.map fun e =>
        (e.1, e.2.strike (node.incoming ++ node.outgoing))) =
          g.nodes.entries.map fun e => (e.1, e.2.restrict (g.relationsWithout [id]).keys) :=
      List.map_congr_left fun e he => by
        rw [h.strike_eq_restrict (OrderedMap.get?_eq_some_iff.2 he) hn]
    rw [OrderedMap.entries_erase, OrderedMap.entries_mapValues, hkept, List.filter_map]
    simp [Function.comp_def]
  have hhead : (if g.head = some id then (g.nodes.keys.filter (· ≠ id)).head? else g.head) =
      (g.head.filter (· ∉ [id])).or (g.nodes.keys.find? (· ∉ [id])) := by
    cases hhead : g.head with
    | none =>
        have hid := OrderedMap.mem_keys_iff.2 ⟨node, hn⟩
        exact absurd (h.head_eq_none_iff.1 hhead) (List.ne_nil_of_mem hid)
    | some head =>
        by_cases hgone : head = id
        · simp [Option.filter, hgone, List.head?_filter]
        · simp [Option.filter, hgone]
  have hkeys : ((g.strike (node.incoming ++ node.outgoing)).nodes.erase id).keys =
      g.nodes.keys.filter (· ≠ id) := by
    rw [OrderedMap.keys_erase, keys_nodes_strike]
  simp only [dropNode, hkeys]
  rw [without, ← hhead, ← hnodes, ← hrelations]
  rfl

theorem on_forceDeleteNode (h : g.WellFormed) {node : Node} (hn : g.nodes.get? id = some node) :
    (forceDeleteNode id).on g = (.ok node.detached, g.without [id]) := by
  rw [forceDeleteNode, h.on_removeNode, hn, ← h.dropNode_strike hn]
  simp only [Bool.not_true, Bool.and_false, Bool.false_eq_true, if_false]
  rfl

theorem perform_forceDeleteNode (h : g.WellFormed) {node : Node}
    (hn : g.nodes.get? id = some node) :
    g.perform (.forceDeleteNode id) = (.ok (.removedNode node.detached), g.without [id]) := by
  rw [Graph.perform, Edit.mutation, Mutation.on_map, h.on_forceDeleteNode hn]
  rfl

/-! ## A run of deletions -/

theorem without_nil (h : g.WellFormed) : g.without [] = g := by
  have hrelations : g.relationsWithout [] = g.relations := by
    ext1
    simp [relationsWithout]
  have hlisted : ∀ e ∈ g.nodes.entries, (e.1, e.2.restrict g.relations.keys) = e := by
    intro e he
    have hlive := h.incident_live (OrderedMap.get?_eq_some_iff.2 he)
    have hkeep : ∀ rs : List RelationId, rs ⊆ e.2.incoming ++ e.2.outgoing →
        rs.filter (· ∈ g.relations.keys) = rs := fun rs hrs =>
      List.filter_eq_self.2 fun r hr => by simpa using hlive r (hrs hr)
    rw [Node.restrict, hkeep _ (List.subset_append_left ..), hkeep _ (List.subset_append_right ..)]
  have hnodes : ((g.nodes.filter fun id _ => id ∉ ([] : List NodeId)).mapValues fun _ node =>
      node.restrict g.relations.keys) = g.nodes := by
    ext1
    simpa [List.filter_true] using List.map_congr_left hlisted
  have hhead : (g.head.filter (· ∉ ([] : List NodeId))).or
      (g.nodes.keys.find? (· ∉ ([] : List NodeId))) = g.head := by
    cases hhead : g.head with
    | none => simp [h.head_eq_none_iff.1 hhead]
    | some head => simp
  rw [without, hrelations, hnodes, hhead]

/-- Nothing is left when all nodes go. -/
theorem without_of_forall_mem (h : g.WellFormed) (hall : ∀ id ∈ g.nodes.keys, id ∈ doomed) :
    g.without doomed = { g with nodes := .empty, relations := .empty, head := none } := by
  have hrelations : g.relationsWithout doomed = .empty := by
    ext1
    refine List.filter_eq_nil_iff.2 fun e he => ?_
    simp [hall _ (h.source_live (OrderedMap.get?_eq_some_iff.2 he))]
  have hnodes : (g.nodes.filter fun id _ => id ∉ doomed) = .empty := by
    ext1
    refine List.filter_eq_nil_iff.2 fun e he => ?_
    simp [hall e.1 (List.mem_map.2 ⟨e, he, rfl⟩)]
  have hhead : (g.head.filter (· ∉ doomed)).or (g.nodes.keys.find? (· ∉ doomed)) = none := by
    rw [Option.or_eq_none_iff]
    exact ⟨Option.filter_eq_none_iff.2 fun head hh => by simp [hall head (h.head_live hh)],
      List.find?_eq_none.2 fun id hid => by simp [hall id hid]⟩
  rw [without, hrelations, hnodes, hhead]
  rfl

/-- Each of the nodes is handed out without its relations, and in the end the graph is without all
of them. -/
theorem replay_forced (h : g.WellFormed) (hnodup : doomed.Nodup)
    (hlive : ∀ id ∈ doomed, id ∈ g.nodes.keys) :
    g.replay (doomed.map .forceDeleteNode) = g.without doomed ∧
    List.Forall₂ (fun id answer => ∃ node, g.nodes.get? id = some node ∧
      answer = .ok (.removedNode node.detached)) doomed
        (g.answers (doomed.map .forceDeleteNode)) := by
  induction doomed generalizing g with
  | nil => exact ⟨h.without_nil.symm, .nil⟩
  | cons id rest ih =>
      rw [List.nodup_cons] at hnodup
      obtain ⟨node, hn⟩ := OrderedMap.mem_keys_iff.1 (hlive id (List.mem_cons_self ..))
      have hstep := h.perform_forceDeleteNode hn
      have hwell : (g.without [id]).WellFormed := by
        have hperform := h.perform (.forceDeleteNode id)
        rwa [hstep] at hperform
      have hne : ∀ id' ∈ rest, id' ∉ [id] := fun id' hid' hm =>
        hnodup.1 (List.mem_singleton.1 hm ▸ hid')
      obtain ⟨hreplay, hanswers⟩ := ih hwell hnodup.2 fun id' hid' => by
        rw [keys_without, List.mem_filter]
        exact ⟨hlive id' (List.mem_cons_of_mem _ hid'), by simpa using hne id' hid'⟩
      constructor
      · rw [List.map_cons, Graph.replay, List.foldl_cons, hstep, ← Graph.replay, hreplay,
          without_without, List.singleton_append]
      · rw [List.map_cons, answers, hstep]
        refine .cons ⟨node, hn, rfl⟩ (hanswers.imp fun id' answer hanswer => ?_)
        -- An earlier deletion has taken nothing but relations from the nodes that were left.
        obtain ⟨left, hleft, rfl⟩ := hanswer
        obtain ⟨node', hn', rfl⟩ := exists_of_get?_without hleft
        exact ⟨node', hn', rfl⟩

end WellFormed

/-- **Deletions do not depend on their order.** Nodes that are there can all be deleted by force,
one after another. Each is handed out without its relations, and what is left is the graph without
these nodes, in whatever order they go; if they are all the nodes there are, it is what clearing
the graph leaves. -/
theorem forced_deletions (hg : g.Buildable) (hnodup : doomed.Nodup)
    (hlive : ∀ id ∈ doomed, id ∈ g.nodes.keys) :
    List.Forall₂ (fun id answer => ∃ node, g.nodes.get? id = some node ∧
      answer = .ok (.removedNode node.detached)) doomed
        (g.answers (doomed.map .forceDeleteNode)) ∧
    g.replay (doomed.map .forceDeleteNode) = g.without doomed ∧
    (∀ order : List NodeId, order.Perm doomed →
      g.replay (order.map .forceDeleteNode) = g.replay (doomed.map .forceDeleteNode)) ∧
    ((∀ id ∈ g.nodes.keys, id ∈ doomed) →
      g.replay (doomed.map .forceDeleteNode) = (g.perform .clear).2) := by
  have hwell := hg.wellFormed
  obtain ⟨hreplay, hanswers⟩ := hwell.replay_forced hnodup hlive
  refine ⟨hanswers, hreplay, fun order hperm => ?_, fun hall => ?_⟩
  · obtain ⟨horder, -⟩ := hwell.replay_forced (hperm.nodup_iff.2 hnodup)
      fun id hid => hlive id (hperm.mem_iff.1 hid)
    rw [horder, hreplay, without_congr fun id => hperm.mem_iff]
  · rw [hreplay, hwell.without_of_forall_mem hall, Graph.perform, Edit.mutation, Mutation.on_map,
      on_clear]

/-- Three nodes in a circle, the last of them the head, and a fourth beside the second. -/
def ring : Graph :=
  .replay .empty [.createNode "a", .createNode "b", .createNode "c", .createNode "d",
    .createRelation ⟨0⟩ ⟨1⟩ {}, .createRelation ⟨1⟩ ⟨2⟩ {}, .createRelation ⟨2⟩ ⟨0⟩ {},
    .createRelation ⟨1⟩ ⟨3⟩ {}, .setHead ⟨2⟩]

/-- The head moves twice if it goes first, and once if it goes last. -/
theorem forced_deletions_ring :
    ring.replay [.forceDeleteNode ⟨2⟩, .forceDeleteNode ⟨0⟩] =
      ring.replay [.forceDeleteNode ⟨0⟩, .forceDeleteNode ⟨2⟩] ∧
    (ring.replay [.forceDeleteNode ⟨0⟩, .forceDeleteNode ⟨2⟩]).head = some ⟨1⟩ ∧
    (ring.replay [.forceDeleteNode ⟨0⟩, .forceDeleteNode ⟨2⟩]).relations.keys = [⟨3⟩] ∧
    ring.replay [.forceDeleteNode ⟨3⟩, .forceDeleteNode ⟨2⟩, .forceDeleteNode ⟨0⟩,
      .forceDeleteNode ⟨1⟩] = { ring with nodes := .empty, relations := .empty, head := none } := by
  have hring : ring.Buildable := ⟨_, rfl⟩
  have hsome : ([⟨0⟩, ⟨2⟩] : List NodeId).Nodup := by decide
  have hall : ([⟨3⟩, ⟨2⟩, ⟨0⟩, ⟨1⟩] : List NodeId).Nodup := by decide
  obtain ⟨-, hleft, horder, -⟩ := forced_deletions hring hsome (by decide)
  obtain ⟨-, -, -, hclear⟩ := forced_deletions hring hall (by decide)
  refine ⟨horder [⟨2⟩, ⟨0⟩] (.swap ..), ?_, ?_, hclear (by decide)⟩
  · exact (congrArg Graph.head hleft).trans rfl
  · exact (congrArg (fun left => left.relations.keys) hleft).trans rfl

end Graph

end TreeQuery
