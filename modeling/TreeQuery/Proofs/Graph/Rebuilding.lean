import TreeQuery.Proofs.Graph.Removal
import TreeQuery.Proofs.Graph.Renaming

set_option autoImplicit false

/-! # Building with other handles

Two graphs are aligned if one has what the other has under other names and the handles that it will
give next are the other names of those that the other will give (`Graph.Aligned`). A request with
renamed handles then gets the renamed answer, and the graphs stay aligned (`Aligned.perform`); so
building goes the same way in both (`Aligned.replay`). A graph that has been emptied is aligned with
a new one: all its handles are shifted by the numbers of those that it has given before. -/

namespace TreeQuery

/-- An edit does not see the relations of a node. -/
theorem Node.edit_rename (σ : Renaming) (node : Node) (e : Node.Edit) :
    (node.rename σ).edit e =
      carry (Graph.Error.rename σ) (Node.rename σ) (node.edit e) := by
  cases e with
  | setPattern pattern => rfl
  | setLabel label => rfl
  | setGroupLabel index name =>
      show (node.rename σ).setGroupLabel index name = carry _ _ (node.setGroupLabel index name)
      unfold Node.setGroupLabel
      split <;> rfl

namespace Graph

variable {σ : Renaming} {g g' : Graph}

/-- A request with renamed handles. -/
def Edit.rename (σ : Renaming) : Edit → Edit
  | createNode pattern => createNode pattern
  | deleteNode id => deleteNode (σ.node id)
  | forceDeleteNode id => forceDeleteNode (σ.node id)
  | clear => clear
  | setHead id => setHead (σ.node id)
  | editNode id edit => editNode (σ.node id) edit
  | createRelation source target descriptor =>
    createRelation (σ.node source) (σ.node target) descriptor
  | deleteRelation r => deleteRelation (σ.relation r)
  | reverseRelation r => reverseRelation (σ.relation r)
  | editRelation r edit => editRelation (σ.relation r) edit

/-- An answer with renamed handles. -/
def Answer.rename (σ : Renaming) : Answer → Answer
  | done => done
  | createdNode id => createdNode (σ.node id)
  | createdRelation r => createdRelation (σ.relation r)
  | removedNode node => removedNode (node.rename σ)
  | removedRelation relation => removedRelation (relation.rename σ.node)
  | editedNode node => editedNode (node.map (Node.rename σ))
  | editedRelation relation => editedRelation (relation.map (Relation.rename σ.node))

/-- A graph has what another has under other names, and it will give its handles accordingly. -/
structure Aligned (σ : Renaming) (g g' : Graph) : Prop extends Renames g σ g' where
  nextNode : ∀ k, σ.node ⟨g.nextNode + k⟩ = ⟨g'.nextNode + k⟩
  nextRelation : ∀ k, σ.relation ⟨g.nextRelation + k⟩ = ⟨g'.nextRelation + k⟩

namespace Aligned

/-! ## Plain changes -/

theorem addNode (h : Aligned σ g g') (pattern : String) :
    Aligned σ (g.addNode pattern) (g'.addNode pattern) := by
  have hid : σ.node ⟨g.nextNode⟩ = ⟨g'.nextNode⟩ := h.nextNode 0
  refine ⟨⟨?_, h.relations, ?_⟩, fun k => ?_, h.nextRelation⟩
  · rw [Graph.addNode, Graph.addNode, OrderedMap.rename_insert, ← h.nodes, hid]
    rfl
  · rw [Graph.addNode, Graph.addNode, h.head, ← hid]
    cases g.head <;> rfl
  · rw [Graph.addNode, Graph.addNode, Nat.add_assoc, Nat.add_assoc]
    exact h.nextNode (1 + k)

theorem modifyNode (h : Aligned σ g g') (id : NodeId) {f f' : Node → Node}
    (hf : ∀ node, (f node).rename σ = f' (node.rename σ)) :
    Aligned σ (g.modifyNode id f) (g'.modifyNode (σ.node id) f') := by
  refine ⟨⟨?_, h.relations, h.head⟩, h.nextNode, h.nextRelation⟩
  rw [Graph.modifyNode, Graph.modifyNode, OrderedMap.rename_modify hf, ← h.nodes]

theorem modifyRelation (h : Aligned σ g g') (r : RelationId) {f f' : Relation → Relation}
    (hf : ∀ relation, (f relation).rename σ.node = f' (relation.rename σ.node)) :
    Aligned σ (g.modifyRelation r f) (g'.modifyRelation (σ.relation r) f') := by
  refine ⟨⟨h.nodes, ?_, h.head⟩, h.nextNode, h.nextRelation⟩
  rw [Graph.modifyRelation, Graph.modifyRelation, OrderedMap.rename_modify hf, ← h.relations]

theorem addRelation (h : Aligned σ g g') (source target : NodeId)
    (descriptor : Relation.Descriptor) :
    Aligned σ (g.addRelation source target descriptor)
      (g'.addRelation (σ.node source) (σ.node target) descriptor) := by
  have hid : σ.relation ⟨g.nextRelation⟩ = ⟨g'.nextRelation⟩ := h.nextRelation 0
  have hout (node : Node) : (node.addOutgoing ⟨g.nextRelation⟩).rename σ =
      (node.rename σ).addOutgoing ⟨g'.nextRelation⟩ := by
    simp [Node.rename, Node.addOutgoing, hid]
  have hin (node : Node) : (node.addIncoming ⟨g.nextRelation⟩).rename σ =
      (node.rename σ).addIncoming ⟨g'.nextRelation⟩ := by
    simp [Node.rename, Node.addIncoming, hid]
  refine ⟨⟨?_, ?_, h.head⟩, h.nextNode, fun k => ?_⟩
  · rw [Graph.addRelation, Graph.addRelation, OrderedMap.rename_modify hin,
      OrderedMap.rename_modify hout, ← h.nodes]
  · rw [Graph.addRelation, Graph.addRelation, OrderedMap.rename_insert, ← h.relations, hid]
    rfl
  · rw [Graph.addRelation, Graph.addRelation, Nat.add_assoc, Nat.add_assoc]
    exact h.nextRelation (1 + k)

/-- What is not struck under its name is not struck under the other. -/
theorem filter_not_mem_map (ids rs : List RelationId) :
    (rs.map σ.relation).filter (· ∉ ids.map σ.relation) =
      (rs.filter (· ∉ ids)).map σ.relation := by
  rw [List.filter_map]
  refine congrArg (List.map σ.relation) (List.filter_congr fun r _ => ?_)
  simp only [Function.comp_apply, List.mem_map_of_injective σ.relation.injective]

theorem strike (h : Aligned σ g g') (ids : List RelationId) :
    Aligned σ (g.strike ids) (g'.strike (ids.map σ.relation)) := by
  have hnode (node : Node) : (node.strike ids).rename σ =
      (node.rename σ).strike (ids.map σ.relation) := by
    simp only [Node.rename, Node.strike, filter_not_mem_map]
  have hkept (r : RelationId) :
      decide (σ.relation r ∉ ids.map σ.relation) = decide (r ∉ ids) := by
    simp only [List.mem_map_of_injective σ.relation.injective]
  have hnodes : (g.nodes.mapValues fun _ node => node.strike ids).rename σ.node (Node.rename σ) =
      g'.nodes.mapValues fun _ node => node.strike (ids.map σ.relation) := by
    rw [h.nodes]
    exact OrderedMap.rename_mapValues (fun _ node => hnode node) g.nodes
  have hrelations : (g.relations.filter fun r _ => r ∉ ids).rename σ.relation
      (Relation.rename σ.node) = g'.relations.filter fun r _ => r ∉ ids.map σ.relation := by
    rw [h.relations]
    exact OrderedMap.rename_filter (fun r _ => hkept r) g.relations
  exact ⟨⟨hnodes.symm, hrelations.symm, h.head⟩, h.nextNode, h.nextRelation⟩

theorem head_eq_iff (h : Aligned σ g g') {id : NodeId} :
    g'.head = some (σ.node id) ↔ g.head = some id := by
  rw [h.head, ← Option.map_some, (Option.map_injective σ.node.injective).eq_iff]

theorem dropNode (h : Aligned σ g g') (id : NodeId) :
    Aligned σ (g.dropNode id) (g'.dropNode (σ.node id)) := by
  have hnodes : g'.nodes.erase (σ.node id) = (g.nodes.erase id).rename σ.node (Node.rename σ) := by
    rw [OrderedMap.rename_erase, ← h.nodes]
  refine ⟨⟨hnodes, h.relations, ?_⟩, h.nextNode, h.nextRelation⟩
  simp only [Graph.dropNode, hnodes, h.head_eq_iff, OrderedMap.keys_rename, List.head?_map]
  split
  · rfl
  · exact h.head

theorem withHead (h : Aligned σ g g') (id : NodeId) :
    Aligned σ { g with head := some id } { g' with head := some (σ.node id) } :=
  ⟨⟨h.nodes, h.relations, rfl⟩, h.nextNode, h.nextRelation⟩

theorem cleared (h : Aligned σ g g') :
    Aligned σ { g with nodes := .empty, relations := .empty, head := none }
      { g' with nodes := .empty, relations := .empty, head := none } :=
  ⟨⟨rfl, rfl, rfl⟩, h.nextNode, h.nextRelation⟩

end Aligned

/-! ## Requests -/

/-- A change of one graph goes as a change of another: the answers are the same up to names, and the
graphs that are left are aligned. -/
structure Follows {α : Type} (σ : Renaming) (f : α → α) (x x' : Except Error α × Graph) : Prop where
  answer : x'.1 = carry (Error.rename σ) f x.1
  aligned : Aligned σ x.2 x'.2

theorem Follows.map {α β : Type} {f : α → α} {k : α → β} {f' : β → β} {m m' : Mutation α}
    (h : Follows σ f (m.on g) (m'.on g')) (hk : ∀ a, f' (k a) = k (f a)) :
    Follows σ f' ((k <$> m).on g) ((k <$> m').on g') := by
  rw [Mutation.on_map, Mutation.on_map]
  refine ⟨?_, h.aligned⟩
  simp only [h.answer]
  cases (m.on g).1 with
  | error e => rfl
  | ok a => exact congrArg Except.ok (hk a).symm

namespace Aligned

theorem follows_createNode (h : Aligned σ g g') (pattern : String) :
    Follows σ σ.node ((createNode pattern).on g) ((createNode pattern).on g') := by
  rw [on_createNode, on_createNode]
  exact ⟨congrArg Except.ok (h.nextNode 0).symm, h.addNode pattern⟩

theorem follows_setHead (h : Aligned σ g g') (id : NodeId) :
    Follows σ (fun u => u) ((setHead id).on g) ((setHead (σ.node id)).on g') := by
  rw [on_setHead, on_setHead]
  simp only [h.mem_keys_nodes]
  split
  · exact ⟨rfl, h.withHead id⟩
  · exact ⟨rfl, h⟩

theorem follows_createRelation (h : Aligned σ g g') (source target : NodeId)
    (descriptor : Relation.Descriptor) :
    Follows σ σ.relation ((createRelation source target descriptor).on g)
      ((createRelation (σ.node source) (σ.node target) descriptor).on g') := by
  rw [on_createRelation, on_createRelation]
  simp only [h.mem_keys_nodes, σ.node.apply_eq_iff_eq]
  split
  · exact ⟨rfl, h⟩
  · split
    · exact ⟨rfl, h⟩
    · split
      · exact ⟨rfl, h⟩
      · exact ⟨congrArg Except.ok (h.nextRelation 0).symm, h.addRelation source target descriptor⟩

theorem follows_deleteRelation (h : Aligned σ g g') (hg : g.WellFormed) (hg' : g'.WellFormed)
    (r : RelationId) :
    Follows σ (Relation.rename σ.node) ((deleteRelation r).on g)
      ((deleteRelation (σ.relation r)).on g') := by
  rw [hg.on_deleteRelation, hg'.on_deleteRelation, h.get?_relations]
  cases g.relations.get? r with
  | none => exact ⟨rfl, h⟩
  | some relation => exact ⟨rfl, h.strike [r]⟩

theorem follows_reverseRelation (h : Aligned σ g g') (hg : g.WellFormed) (hg' : g'.WellFormed)
    (r : RelationId) :
    Follows σ σ.relation ((reverseRelation r).on g) ((reverseRelation (σ.relation r)).on g') := by
  rw [hg.on_reverseRelation, hg'.on_reverseRelation, h.get?_relations]
  cases g.relations.get? r with
  | none => exact ⟨rfl, h⟩
  | some relation =>
      exact ⟨congrArg Except.ok (h.nextRelation 0).symm, (h.strike [r]).addRelation _ _ _⟩

theorem follows_clear (h : Aligned σ g g') : Follows σ (fun u => u) (clear.on g) (clear.on g') :=
  ⟨rfl, h.cleared⟩

theorem follows_editNode (h : Aligned σ g g') (id : NodeId) (e : Node.Edit) :
    Follows σ (Option.map (Node.rename σ)) ((editNode id e).on g)
      ((editNode (σ.node id) e).on g') := by
  rw [on_editNode, on_editNode, h.get?_nodes]
  cases g.nodes.get? id with
  | none => exact ⟨rfl, h⟩
  | some node =>
      simp only [Option.map_some, Node.edit_rename]
      cases node.edit e with
      | error error => exact ⟨rfl, h⟩
      | ok node => exact ⟨rfl, h.modifyNode id fun _ => rfl⟩

theorem follows_editRelation (h : Aligned σ g g') (r : RelationId) (e : Relation.Descriptor.Edit) :
    Follows σ (Option.map (Relation.rename σ.node)) ((editRelation r e).on g)
      ((editRelation (σ.relation r) e).on g') := by
  rw [on_editRelation, on_editRelation, h.get?_relations]
  cases g.relations.get? r with
  | none => exact ⟨rfl, h⟩
  | some relation => exact ⟨rfl, h.modifyRelation r fun _ => rfl⟩

theorem follows_removeNode (h : Aligned σ g g') (hg : g.WellFormed) (hg' : g'.WellFormed)
    (id : NodeId) (force : Bool) :
    Follows σ (Node.rename σ) ((removeNode id force).on g)
      ((removeNode (σ.node id) force).on g') := by
  rw [hg.on_removeNode, hg'.on_removeNode, h.get?_nodes]
  cases g.nodes.get? id with
  | none => exact ⟨rfl, h⟩
  | some node =>
      have hlists : (node.rename σ).incoming ++ (node.rename σ).outgoing =
          (node.incoming ++ node.outgoing).map σ.relation := List.map_append.symm
      simp only [Option.map_some, h.head_eq_iff, hlists]
      split
      · exact ⟨rfl, h⟩
      · exact ⟨rfl, (h.strike _).dropNode id⟩

/-- A request with renamed handles gets the renamed answer, and the graphs stay aligned. -/
theorem perform (h : Aligned σ g g') (hg : g.WellFormed) (hg' : g'.WellFormed) (e : Edit) :
    Follows σ (Answer.rename σ) (g.perform e) (g'.perform (e.rename σ)) := by
  cases e with
  | createNode pattern => exact (h.follows_createNode pattern).map fun _ => rfl
  | deleteNode id => exact (h.follows_removeNode hg hg' id false).map fun _ => rfl
  | forceDeleteNode id => exact (h.follows_removeNode hg hg' id true).map fun _ => rfl
  | clear => exact h.follows_clear.map fun _ => rfl
  | setHead id => exact (h.follows_setHead id).map fun _ => rfl
  | editNode id edit => exact (h.follows_editNode id edit).map fun _ => rfl
  | createRelation source target descriptor =>
      exact (h.follows_createRelation source target descriptor).map fun _ => rfl
  | deleteRelation r => exact (h.follows_deleteRelation hg hg' r).map fun _ => rfl
  | reverseRelation r => exact (h.follows_reverseRelation hg hg' r).map fun _ => rfl
  | editRelation r edit => exact (h.follows_editRelation r edit).map fun _ => rfl

/-- Building goes the same way in aligned graphs. -/
theorem replay (h : Aligned σ g g') (hg : g.WellFormed) (hg' : g'.WellFormed)
    (build : List Edit) :
    g'.answers (build.map (Edit.rename σ)) =
      (g.answers build).map (carry (Error.rename σ) (Answer.rename σ)) ∧
    Aligned σ (g.replay build) (g'.replay (build.map (Edit.rename σ))) := by
  induction build generalizing g g' with
  | nil => exact ⟨rfl, h⟩
  | cons e es ih =>
      obtain ⟨hanswer, haligned⟩ := h.perform hg hg' e
      obtain ⟨hanswers, hreplay⟩ := ih haligned (hg.perform e) (hg'.perform (e.rename σ))
      refine ⟨?_, hreplay⟩
      rw [List.map_cons, answers, answers, hanswer, hanswers, List.map_cons]

end Aligned

end Graph

/-! ## Emptied graphs -/

/-- All handles shifted upwards. -/
def Renaming.shift (nodes relations : Nat) : Renaming where
  node := ⟨fun id => ⟨nodes + id.index⟩, fun a b h => by
    cases a
    cases b
    simpa using h⟩
  relation := ⟨fun id => ⟨relations + id.index⟩, fun a b h => by
    cases a
    cases b
    simpa using h⟩

namespace Graph

/-- The handles of a new graph, renamed to handles that a graph has not given yet. -/
def fresh (g : Graph) : Renaming := .shift g.nextNode g.nextRelation

/-- A graph without nodes is aligned with a new one. -/
theorem WellFormed.aligned_of_keys_eq_nil {g : Graph} (hg : g.WellFormed)
    (hempty : g.nodes.keys = []) : Aligned g.fresh empty g := by
  have hnodes : g.nodes = .empty := by
    ext1
    exact List.map_eq_nil_iff.1 hempty
  have hrelations : g.relations = .empty := by
    ext1
    refine List.eq_nil_iff_forall_not_mem.2 fun entry hentry => ?_
    have hsource := hg.source_live (OrderedMap.get?_eq_some_iff.2 hentry)
    rw [hempty] at hsource
    exact absurd hsource List.not_mem_nil
  refine ⟨⟨hnodes, hrelations, hg.head_eq_none_iff.2 hempty⟩, fun k => ?_, fun k => ?_⟩
  · show (⟨g.nextNode + (0 + k)⟩ : NodeId) = _
    rw [Nat.zero_add]
  · show (⟨g.nextRelation + (0 + k)⟩ : RelationId) = _
    rw [Nat.zero_add]

/-- Clearing leaves no node. -/
theorem keys_replay_clear (g : Graph) : (g.replay [.clear]).nodes.keys = [] := rfl

/-- Deleting all nodes by force, in any order, leaves no node. -/
theorem WellFormed.keys_replay_forced {g : Graph} (hg : g.WellFormed) {doomed : List NodeId}
    (hperm : doomed.Perm g.nodes.keys) :
    (g.replay (doomed.map .forceDeleteNode)).nodes.keys = [] := by
  have hnodup : doomed.Nodup := hperm.nodup_iff.2 g.nodes.nodup_keys
  obtain ⟨hreplay, -⟩ := hg.replay_forced hnodup fun id hid => hperm.mem_iff.1 hid
  rw [hreplay, hg.without_of_forall_mem fun id hid => hperm.mem_iff.2 hid]
  rfl

end Graph

end TreeQuery
