import TreeQuery.Proofs.Graph.Change

set_option autoImplicit false

/-! # What the operations do

Each operation of `TreeQuery.Graph.Mutation` runs step by step and can fail after any of its steps.
Here every one gets an equation that gives its answer and the graph it leaves, in one piece. Where
relations are deleted the equation holds of well-formed graphs only: that the cascade of a deleted
node and the two halves of a reversal never stop halfway is what well-formedness is for. -/

namespace TreeQuery.Graph

/-! ## Running -/

section Running

variable {α β : Type} (g : Graph)

@[simp] theorem Mutation.on_pure (a : α) : (pure a : Mutation α).on g = (.ok a, g) := rfl

@[simp] theorem Mutation.on_throw (e : Error) : (throw e : Mutation α).on g = (.error e, g) := rfl

@[simp] theorem Mutation.on_get : (get : Mutation Graph).on g = (.ok g, g) := rfl

@[simp] theorem Mutation.on_modify (f : Graph → Graph) :
    (modify f : Mutation Unit).on g = (.ok (), f g) := rfl

/-- A failure ends a change, and what was done before stays done. -/
theorem Mutation.on_bind (m : Mutation α) (f : α → Mutation β) :
    (m >>= f).on g =
      match m.on g with
      | (.ok a, g') => (f a).on g'
      | (.error e, g') => (.error e, g') := by
  show (ExceptT.bind m f).run g = _
  simp only [ExceptT.bind, Mutation.on, ExceptT.run, ExceptT.mk, bind, StateT.bind]
  rcases m g with ⟨a | e, g'⟩ <;> rfl

theorem Mutation.on_map (f : α → β) (m : Mutation α) :
    (f <$> m).on g = ((m.on g).1.map f, (m.on g).2) := by
  rw [← bind_pure_comp, Mutation.on_bind]
  rcases m.on g with ⟨a | e, g'⟩ <;> rfl

end Running

/-! ## Operations that need no well-formedness -/

theorem on_createNode (pattern : String) (g : Graph) :
    (createNode pattern).on g = (.ok ⟨g.nextNode⟩, g.addNode pattern) := rfl

theorem on_clear (g : Graph) :
    clear.on g = (.ok (), { g with nodes := .empty, relations := .empty, head := none }) := rfl

theorem on_demandNode (id : NodeId) (g : Graph) :
    (demandNode id).on g =
      (if id ∈ g.nodes.keys then .ok () else .error (.unknownNode id), g) := by
  simp only [demandNode, Mutation.on_bind, Mutation.on_get, OrderedMap.contains_iff_mem_keys]
  split <;> rfl

theorem on_updateNode {id : NodeId} {g : Graph} (h : id ∈ g.nodes.keys) (f : Node → Node) :
    (updateNode id f).on g = (.ok (), g.modifyNode id f) := by
  simp only [updateNode, Mutation.on_bind, Mutation.on_get, OrderedMap.contains_iff_mem_keys,
    if_pos h]
  rfl

theorem on_setHead (id : NodeId) (g : Graph) :
    (setHead id).on g =
      if id ∈ g.nodes.keys then (.ok (), { g with head := some id })
      else (.error (.unknownNode id), g) := by
  by_cases h : id ∈ g.nodes.keys
  · simp [setHead, Mutation.on_bind, on_demandNode, h]
  · simp [setHead, Mutation.on_bind, on_demandNode, h]

theorem on_editNode (id : NodeId) (e : Node.Edit) (g : Graph) :
    (editNode id e).on g =
      match g.nodes.get? id with
      | none => (.ok none, g)
      | some node =>
        match node.edit e with
        | .ok node => (.ok (some node), g.modifyNode id fun _ => node)
        | .error error => (.error error, g) := by
  simp only [editNode, Mutation.on_bind, Mutation.on_get]
  cases g.nodes.get? id with
  | none => rfl
  | some node =>
      simp only [Mutation.on_bind]
      cases he : node.edit e with
      | ok node' => rfl
      | error error => rfl

theorem on_editRelation (r : RelationId) (e : Relation.Descriptor.Edit) (g : Graph) :
    (editRelation r e).on g =
      match g.relations.get? r with
      | none => (.ok none, g)
      | some relation =>
        let relation := { relation with descriptor := relation.descriptor.edit e }
        (.ok (some relation), g.modifyRelation r fun _ => relation) := by
  simp only [editRelation, Mutation.on_bind, Mutation.on_get]
  cases g.relations.get? r <;> rfl

theorem on_createRelation (source target : NodeId) (descriptor : Relation.Descriptor) (g : Graph) :
    (createRelation source target descriptor).on g =
      if source ∉ g.nodes.keys then (.error (.unknownNode source), g)
      else if target ∉ g.nodes.keys then (.error (.unknownNode target), g)
      else if source = target then (.error (.selfRelation source), g)
      else (.ok ⟨g.nextRelation⟩, g.addRelation source target descriptor) := by
  simp only [createRelation, Mutation.on_bind, on_demandNode]
  by_cases hs : source ∈ g.nodes.keys
  · by_cases ht : target ∈ g.nodes.keys
    · by_cases he : source = target
      · simp [ht, he]
      · simp only [hs, ht, he, if_true, if_false, not_true_eq_false, Mutation.on_bind,
          Mutation.on_get, Mutation.on_modify]
        rw [on_updateNode (by exact hs)]
        simp only
        rw [on_updateNode (by simpa [modifyNode] using ht)]
        rfl
    · simp [hs, ht]
  · simp [hs]

/-! ## Operations on well-formed graphs -/

namespace WellFormed

variable {g : Graph}

theorem on_deleteRelation (h : g.WellFormed) (r : RelationId) :
    (deleteRelation r).on g =
      match g.relations.get? r with
      | none => (.error (.unknownRelation r), g)
      | some relation => (.ok relation, g.strike [r]) := by
  simp only [deleteRelation, Mutation.on_bind, Mutation.on_get]
  cases hr : g.relations.get? r with
  | none => rfl
  | some relation =>
      simp only [Mutation.on_bind, Mutation.on_modify]
      rw [on_updateNode (by exact h.source_live hr)]
      simp only
      rw [on_updateNode (by simpa [modifyNode] using h.target_live hr)]
      simp only [Mutation.on_pure, h.strike_of_get? hr, modifyNode]

/-- Deleting relations that are there, one after another, does not fail. -/
theorem on_deleteRelations {ids : List RelationId} (h : g.WellFormed) (hnd : ids.Nodup)
    (hlive : ∀ r ∈ ids, r ∈ g.relations.keys) :
    (deleteRelations ids).on g = (.ok (), g.strike ids) := by
  induction ids generalizing g with
  | nil => rw [strike_nil]; rfl
  | cons r ids ih =>
      -- The rest is still there when the first relation is gone, and the graph is well-formed then.
      rw [List.nodup_cons] at hnd
      obtain ⟨relation, hr⟩ := OrderedMap.mem_keys_iff.1 (hlive r (List.mem_cons_self ..))
      have hrest : ∀ r' ∈ ids, r' ∈ (g.strike [r]).relations.keys := by
        intro r' hr'
        obtain ⟨relation', hget⟩ :=
          OrderedMap.mem_keys_iff.1 (hlive r' (List.mem_cons_of_mem _ hr'))
        have hne : r' ∉ [r] := fun hm => hnd.1 (List.mem_singleton.1 hm ▸ hr')
        exact OrderedMap.mem_keys_iff.2 ⟨relation', get?_relations_strike.2 ⟨hget, hne⟩⟩
      simp only [deleteRelations, Mutation.on_bind, h.on_deleteRelation, hr]
      rw [ih (wellFormed_strike h [r]) hnd.2 hrest, strike_strike, List.singleton_append]

/-- Reversing a relation that is there does not fail: its ends are there, and they differ. -/
theorem on_reverseRelation (h : g.WellFormed) (r : RelationId) :
    (reverseRelation r).on g =
      match g.relations.get? r with
      | none => (.error (.unknownRelation r), g)
      | some relation => (.ok ⟨g.nextRelation⟩,
          (g.strike [r]).addRelation relation.target relation.source relation.descriptor) := by
  simp only [reverseRelation, Mutation.on_bind, h.on_deleteRelation]
  cases hr : g.relations.get? r with
  | none => rfl
  | some relation =>
      have hs := h.source_live hr
      have ht := h.target_live hr
      have hne := (h.ends_differ hr).symm
      simp only [on_createRelation, keys_nodes_strike, hs, ht, hne, not_true_eq_false, if_false]
      rfl

/-- A node that is there is deleted with all its relations, unless it is the head and not forced. It
is handed out without its relations. -/
theorem on_removeNode (h : g.WellFormed) (id : NodeId) (force : Bool) :
    (removeNode id force).on g =
      match g.nodes.get? id with
      | none => (.error (.unknownNode id), g)
      | some node =>
        if g.head = some id && !force then (.error (.headDeletion id), g)
        else (.ok { node with incoming := [], outgoing := [] },
          dropNode id (g.strike (node.incoming ++ node.outgoing))) := by
  simp only [removeNode, Mutation.on_bind, Mutation.on_get]
  cases hn : g.nodes.get? id with
  | none => rfl
  | some node =>
      -- The node is looked up again after its relations are gone.
      have hrest : (g.strike (node.incoming ++ node.outgoing)).nodes.get? id =
          some { node with incoming := [], outgoing := [] } := by
        rw [get?_nodes_strike, hn, Option.map_some, Node.strike_incident]
      by_cases hhead : (g.head = some id && !force) = true
      · simp only [hhead, if_true, Mutation.on_bind, Mutation.on_throw]
      · simp only [hhead, Bool.false_eq_true, if_false, Mutation.on_bind, Mutation.on_get,
          h.on_deleteRelations (h.nodup_incident hn) (h.incident_live hn), hrest,
          Mutation.on_modify, Mutation.on_pure]

end WellFormed

end TreeQuery.Graph
