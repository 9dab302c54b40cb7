import TreeQuery.Graph.Edit
import TreeQuery.Proofs.Graph.Operation
import TreeQuery.Proofs.Node

set_option autoImplicit false

/-! # Every history leaves a well-formed graph

One request keeps a graph well-formed, whether it is carried out or refused and whatever handles it
names (`WellFormed.perform`); so does a history, by induction on its requests
(`WellFormed.replay`). The empty graph is well-formed, so every buildable graph is. -/

namespace TreeQuery.Graph

variable {g : Graph}

/-! ## One operation -/

theorem wellFormed_createRelation (h : g.WellFormed) (source target : NodeId)
    (descriptor : Relation.Descriptor) :
    ((createRelation source target descriptor).on g).2.WellFormed := by
  rw [on_createRelation]
  split
  · exact h
  · next hs =>
    split
    · exact h
    · next ht =>
      split
      · exact h
      · next hne =>
        exact wellFormed_addRelation h (Classical.not_not.1 hs) (Classical.not_not.1 ht) hne _

theorem wellFormed_deleteRelation (h : g.WellFormed) (r : RelationId) :
    ((deleteRelation r).on g).2.WellFormed := by
  rw [h.on_deleteRelation]
  split
  · exact h
  · exact wellFormed_strike h [r]

theorem wellFormed_reverseRelation (h : g.WellFormed) (r : RelationId) :
    ((reverseRelation r).on g).2.WellFormed := by
  rw [h.on_reverseRelation]
  split
  · exact h
  · next relation hr =>
    have hs : relation.source ∈ (g.strike [r]).nodes.keys := by simpa using h.source_live hr
    have ht : relation.target ∈ (g.strike [r]).nodes.keys := by simpa using h.target_live hr
    exact wellFormed_addRelation (wellFormed_strike h [r]) ht hs (h.ends_differ hr).symm _

theorem wellFormed_removeNode (h : g.WellFormed) (id : NodeId) (force : Bool) :
    ((removeNode id force).on g).2.WellFormed := by
  rw [h.on_removeNode]
  split
  · exact h
  · next node hn =>
    split
    · exact h
    · refine wellFormed_dropNode (wellFormed_strike h _) fun {r relation} hr => ?_
      obtain ⟨hr, hfree⟩ := get?_relations_strike.1 hr
      rw [h.mem_incident hn] at hfree
      exact fun ht => hfree ⟨relation, hr, ht⟩

theorem wellFormed_editNode (h : g.WellFormed) (id : NodeId) (e : Node.Edit) :
    ((editNode id e).on g).2.WellFormed := by
  rw [on_editNode]
  split
  · exact h
  · next node hn =>
    split
    · next node' he =>
      refine wellFormed_modifyNode h fun old hold => ?_
      obtain rfl : old = node := Option.some.inj (hold.symm.trans hn)
      exact Node.lists_of_edit he
    · exact h

theorem wellFormed_editRelation (h : g.WellFormed) (r : RelationId)
    (e : Relation.Descriptor.Edit) : ((editRelation r e).on g).2.WellFormed := by
  rw [on_editRelation]
  split
  · exact h
  · next relation hr =>
    refine wellFormed_modifyRelation h fun old hold => ?_
    obtain rfl : old = relation := Option.some.inj (hold.symm.trans hr)
    exact ⟨rfl, rfl⟩

/-! ## Requests and histories -/

theorem WellFormed.perform (h : g.WellFormed) (e : Edit) : (g.perform e).2.WellFormed := by
  cases e with
  | createNode pattern =>
      rw [Graph.perform, Edit.mutation, Mutation.on_map, on_createNode]
      exact wellFormed_addNode h pattern
  | deleteNode id =>
      rw [Graph.perform, Edit.mutation, Mutation.on_map]
      exact wellFormed_removeNode h id false
  | forceDeleteNode id =>
      rw [Graph.perform, Edit.mutation, Mutation.on_map]
      exact wellFormed_removeNode h id true
  | clear =>
      rw [Graph.perform, Edit.mutation, Mutation.on_map, on_clear]
      exact wellFormed_of_empty g.nextNode g.nextRelation
  | setHead id =>
      rw [Graph.perform, Edit.mutation, Mutation.on_map, on_setHead]
      split
      · next hid => exact wellFormed_withHead h hid
      · exact h
  | editNode id edit =>
      rw [Graph.perform, Edit.mutation, Mutation.on_map]
      exact wellFormed_editNode h id edit
  | createRelation source target descriptor =>
      rw [Graph.perform, Edit.mutation, Mutation.on_map]
      exact wellFormed_createRelation h source target descriptor
  | deleteRelation r =>
      rw [Graph.perform, Edit.mutation, Mutation.on_map]
      exact wellFormed_deleteRelation h r
  | reverseRelation r =>
      rw [Graph.perform, Edit.mutation, Mutation.on_map]
      exact wellFormed_reverseRelation h r
  | editRelation r edit =>
      rw [Graph.perform, Edit.mutation, Mutation.on_map]
      exact wellFormed_editRelation h r edit

theorem WellFormed.replay (h : g.WellFormed) (history : List Edit) :
    (g.replay history).WellFormed := by
  induction history generalizing g with
  | nil => exact h
  | cons e es ih => exact ih (h.perform e)

theorem wellFormed_empty : empty.WellFormed := wellFormed_of_empty 0 0

theorem Buildable.wellFormed (h : g.Buildable) : g.WellFormed := by
  obtain ⟨history, rfl⟩ := h
  exact wellFormed_empty.replay history

/-- **The representation invariant.** Whatever is asked of a graph that starts empty, answered or
refused, its table of relations, the lists of its nodes, its head and its counters agree. -/
theorem wellFormed_replay_empty (history : List Edit) : (empty.replay history).WellFormed :=
  wellFormed_empty.replay history

end TreeQuery.Graph
