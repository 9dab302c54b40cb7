import TreeQuery.Graph.Basic

set_option autoImplicit false

/-! # Well-formed graphs

A graph keeps what it knows about its relations three times: in the table of relations, in the list
of relations that start at a node, and in the list of those that end there. It also keeps a head,
and the numbers of the next handles. `Graph.WellFormed` says that all of this agrees: the table
decides what the two lists of every node are, order included, and nothing refers to a node or a
relation that is not there. That every graph built by the operations is well-formed is proved in
`TreeQuery.Proofs.Graph.History`; here is what follows from it. -/

namespace TreeQuery

/-- A node is an end of a relation. -/
def Relation.Touches (r : Relation) (id : NodeId) : Prop := r.source = id ∨ r.target = id

instance (r : Relation) (id : NodeId) : Decidable (r.Touches id) :=
  inferInstanceAs (Decidable (_ ∨ _))

theorem Relation.touches_far (r : Relation) (dir : Direction) : r.Touches (r.far dir) := by
  cases dir with
  | forward => exact .inr rfl
  | backward => exact .inl rfl

namespace Graph

/-! ## Look-ups of what has to be there -/

theorem requireNode_eq_ok_iff {g : Graph} {id : NodeId} {node : Node} :
    g.requireNode id = .ok node ↔ g.nodes.get? id = some node := by
  unfold requireNode
  cases g.nodes.get? id <;> simp

theorem requireRelation_eq_ok_iff {g : Graph} {r : RelationId} {relation : Relation} :
    g.requireRelation r = .ok relation ↔ g.relations.get? r = some relation := by
  unfold requireRelation
  cases g.relations.get? r <;> simp

/-! ## The relations of a node, read from the table -/

/-- The relations of the table that satisfy a test, oldest first. -/
def relationsWhere (g : Graph) (p : Relation → Bool) : List RelationId :=
  (g.relations.entries.filter fun e => p e.2).map Prod.fst

/-- The relations of the table that start at a node, oldest first. -/
def startingAt (g : Graph) (id : NodeId) : List RelationId := g.relationsWhere (·.source = id)

/-- The relations of the table that end at a node, oldest first. -/
def endingAt (g : Graph) (id : NodeId) : List RelationId := g.relationsWhere (·.target = id)

theorem mem_relationsWhere {g : Graph} {p : Relation → Bool} {r : RelationId} :
    r ∈ g.relationsWhere p ↔ ∃ relation, g.relations.get? r = some relation ∧ p relation := by
  simp only [relationsWhere, List.mem_map, List.mem_filter, OrderedMap.get?_eq_some_iff]
  constructor
  · rintro ⟨⟨r', relation⟩, ⟨hm, hp⟩, rfl⟩
    exact ⟨relation, hm, hp⟩
  · rintro ⟨relation, hm, hp⟩
    exact ⟨(r, relation), ⟨hm, hp⟩, rfl⟩

theorem mem_startingAt {g : Graph} {id : NodeId} {r : RelationId} :
    r ∈ g.startingAt id ↔
      ∃ relation, g.relations.get? r = some relation ∧ relation.source = id := by
  simp [startingAt, mem_relationsWhere]

theorem mem_endingAt {g : Graph} {id : NodeId} {r : RelationId} :
    r ∈ g.endingAt id ↔ ∃ relation, g.relations.get? r = some relation ∧ relation.target = id := by
  simp [endingAt, mem_relationsWhere]

theorem nodup_relationsWhere (g : Graph) (p : Relation → Bool) : (g.relationsWhere p).Nodup :=
  g.relations.nodup_keys.sublist (List.filter_sublist.map Prod.fst)

/-! ## The invariant -/

/-- Table, lists, head and counters of a graph agree. -/
structure WellFormed (g : Graph) : Prop where
  /-- Nodes stand in the order of their handles. -/
  nodes_ascend : g.nodes.keys.Pairwise fun a b => a.index < b.index
  nodes_issued : ∀ id ∈ g.nodes.keys, id.index < g.nextNode
  /-- Relations stand in the order of their handles. -/
  relations_ascend : g.relations.keys.Pairwise fun a b => a.index < b.index
  relations_issued : ∀ id ∈ g.relations.keys, id.index < g.nextRelation
  /-- No relation joins a node to itself. -/
  ends_differ : ∀ {r relation}, g.relations.get? r = some relation →
    relation.source ≠ relation.target
  source_live : ∀ {r relation}, g.relations.get? r = some relation →
    relation.source ∈ g.nodes.keys
  target_live : ∀ {r relation}, g.relations.get? r = some relation →
    relation.target ∈ g.nodes.keys
  outgoing_eq : ∀ {id node}, g.nodes.get? id = some node → node.outgoing = g.startingAt id
  incoming_eq : ∀ {id node}, g.nodes.get? id = some node → node.incoming = g.endingAt id
  head_eq_none_iff : g.head = none ↔ g.nodes.keys = []
  head_live : ∀ {id}, g.head = some id → id ∈ g.nodes.keys

namespace WellFormed

variable {g : Graph} {id : NodeId} {node : Node} {r : RelationId} {relation : Relation}

/-- The next node handle belongs to no node that is there. -/
theorem nextNode_not_mem (h : g.WellFormed) : (⟨g.nextNode⟩ : NodeId) ∉ g.nodes.keys := fun hm =>
  Nat.lt_irrefl _ (h.nodes_issued _ hm)

theorem nextRelation_not_mem (h : g.WellFormed) :
    (⟨g.nextRelation⟩ : RelationId) ∉ g.relations.keys := fun hm =>
  Nat.lt_irrefl _ (h.relations_issued _ hm)

/-- No relation starts at a node that is not there. -/
theorem startingAt_eq_nil (h : g.WellFormed) (hid : id ∉ g.nodes.keys) : g.startingAt id = [] := by
  refine List.eq_nil_iff_forall_not_mem.2 fun r hr => ?_
  obtain ⟨relation, hrel, hs⟩ := mem_startingAt.1 hr
  exact hid (hs ▸ h.source_live hrel)

/-- No relation ends at a node that is not there. -/
theorem endingAt_eq_nil (h : g.WellFormed) (hid : id ∉ g.nodes.keys) : g.endingAt id = [] := by
  refine List.eq_nil_iff_forall_not_mem.2 fun r hr => ?_
  obtain ⟨relation, hrel, ht⟩ := mem_endingAt.1 hr
  exact hid (ht ▸ h.target_live hrel)

theorem mem_outgoing (h : g.WellFormed) (hn : g.nodes.get? id = some node) :
    r ∈ node.outgoing ↔
      ∃ relation, g.relations.get? r = some relation ∧ relation.source = id := by
  rw [h.outgoing_eq hn, mem_startingAt]

theorem mem_incoming (h : g.WellFormed) (hn : g.nodes.get? id = some node) :
    r ∈ node.incoming ↔
      ∃ relation, g.relations.get? r = some relation ∧ relation.target = id := by
  rw [h.incoming_eq hn, mem_endingAt]

theorem nodup_outgoing (h : g.WellFormed) (hn : g.nodes.get? id = some node) :
    node.outgoing.Nodup := by
  rw [h.outgoing_eq hn]
  exact nodup_relationsWhere _ _

theorem nodup_incoming (h : g.WellFormed) (hn : g.nodes.get? id = some node) :
    node.incoming.Nodup := by
  rw [h.incoming_eq hn]
  exact nodup_relationsWhere _ _

/-- No relation both starts and ends at a node. -/
theorem not_mem_incoming_of_mem_outgoing (h : g.WellFormed) (hn : g.nodes.get? id = some node)
    (ho : r ∈ node.outgoing) : r ∉ node.incoming := by
  intro hi
  obtain ⟨relation, hr, hs⟩ := (h.mem_outgoing hn).1 ho
  obtain ⟨relation', hr', ht⟩ := (h.mem_incoming hn).1 hi
  obtain rfl : relation = relation' := Option.some.inj (hr.symm.trans hr')
  exact h.ends_differ hr (hs.trans ht.symm)

theorem nodup_incident (h : g.WellFormed) (hn : g.nodes.get? id = some node) :
    (node.incoming ++ node.outgoing).Nodup := by
  refine List.nodup_append.2 ⟨h.nodup_incoming hn, h.nodup_outgoing hn, ?_⟩
  rintro r hi r' ho rfl
  exact h.not_mem_incoming_of_mem_outgoing hn ho hi

/-- A node lists exactly the relations that touch it. -/
theorem mem_incident (h : g.WellFormed) (hn : g.nodes.get? id = some node) :
    r ∈ node.incoming ++ node.outgoing ↔
      ∃ relation, g.relations.get? r = some relation ∧ relation.Touches id := by
  rw [List.mem_append, h.mem_incoming hn, h.mem_outgoing hn]
  constructor
  · rintro (⟨relation, hr, he⟩ | ⟨relation, hr, he⟩)
    · exact ⟨relation, hr, .inr he⟩
    · exact ⟨relation, hr, .inl he⟩
  · rintro ⟨relation, hr, he | he⟩
    · exact .inr ⟨relation, hr, he⟩
    · exact .inl ⟨relation, hr, he⟩

/-- A node lists no relation that is not there. -/
theorem incident_live (h : g.WellFormed) (hn : g.nodes.get? id = some node) :
    ∀ r ∈ node.incoming ++ node.outgoing, r ∈ g.relations.keys := by
  intro r hr
  obtain ⟨relation, hget, -⟩ := (h.mem_incident hn).1 hr
  exact OrderedMap.mem_keys_iff.2 ⟨relation, hget⟩

end WellFormed

end Graph

end TreeQuery
