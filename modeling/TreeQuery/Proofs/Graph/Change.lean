import TreeQuery.Graph.Mutation
import TreeQuery.Proofs.Graph.WellFormed

set_option autoImplicit false

/-! # Changes of graphs

The operations of `TreeQuery.Graph.Mutation` are made of a few plain changes: a node or a relation
is added, relations are struck, a node is dropped, the head moves, a value is replaced. Here they
are as functions on graphs, each with the fact that it keeps a graph well-formed. Striking takes
relations out of the table and out of every list at once; in a well-formed graph that is the same as
striking them at their ends (`WellFormed.strike_of_get?`). -/

namespace TreeQuery

/-- Strike the given relations from both lists of a node. -/
def Node.strike (ids : List RelationId) (node : Node) : Node :=
  { node with
    incoming := node.incoming.filter (· ∉ ids)
    outgoing := node.outgoing.filter (· ∉ ids) }

@[simp] theorem Node.strike_nil (node : Node) : node.strike [] = node := by
  have hkeep : ∀ rs : List RelationId, rs.filter (· ∉ []) = rs := fun rs =>
    List.filter_eq_self.2 fun r _ => by simp
  rw [Node.strike, hkeep, hkeep]

theorem Node.strike_strike (node : Node) (ids ids' : List RelationId) :
    (node.strike ids).strike ids' = node.strike (ids ++ ids') := by
  simp [Node.strike, List.filter_filter, not_or, Bool.and_comm]

/-- Nothing is left in the lists of a node when all that they hold is struck. -/
theorem Node.strike_incident (node : Node) :
    node.strike (node.incoming ++ node.outgoing) =
      { node with incoming := [], outgoing := [] } := by
  have hi : node.incoming.filter (· ∉ node.incoming ++ node.outgoing) = [] :=
    List.filter_eq_nil_iff.2 fun r hr => by simp [hr]
  have ho : node.outgoing.filter (· ∉ node.incoming ++ node.outgoing) = [] :=
    List.filter_eq_nil_iff.2 fun r hr => by simp [hr]
  rw [Node.strike, hi, ho]

namespace Graph

/-! ## Adding and striking -/

/-- Add a node behind the others, as head if there is none. -/
def addNode (pattern : String) (g : Graph) : Graph :=
  { g with
    nodes := g.nodes.insert ⟨g.nextNode⟩ { pattern }
    head := g.head <|> some ⟨g.nextNode⟩
    nextNode := g.nextNode + 1 }

/-- Add a relation behind the others and list it at both of its ends. -/
def addRelation (source target : NodeId) (descriptor : Relation.Descriptor) (g : Graph) : Graph :=
  { g with
    nodes := (g.nodes.modify source (·.addOutgoing ⟨g.nextRelation⟩)).modify target
      (·.addIncoming ⟨g.nextRelation⟩)
    relations := g.relations.insert ⟨g.nextRelation⟩ ⟨source, target, descriptor⟩
    nextRelation := g.nextRelation + 1 }

theorem get?_nodes_addRelation (source target : NodeId) (descriptor : Relation.Descriptor)
    (g : Graph) (id : NodeId) :
    (g.addRelation source target descriptor).nodes.get? id = (g.nodes.get? id).map fun node =>
      { node with
        outgoing := node.outgoing ++ if source = id then [⟨g.nextRelation⟩] else []
        incoming := node.incoming ++ if target = id then [⟨g.nextRelation⟩] else [] } := by
  simp only [addRelation, OrderedMap.get?_modify, eq_comm (a := id)]
  cases g.nodes.get? id with
  | none => simp
  | some node => split <;> split <;> simp [*, Node.addOutgoing, Node.addIncoming]

/-- Strike relations from the table and from all lists. -/
def strike (ids : List RelationId) (g : Graph) : Graph :=
  { g with
    nodes := g.nodes.mapValues fun _ node => node.strike ids
    relations := g.relations.filter fun id _ => id ∉ ids }

theorem strike_nil (g : Graph) : g.strike [] = g := by
  have hnodes : (g.nodes.mapValues fun _ node => node.strike []) = g.nodes := by
    ext1
    simp
  have hrelations : (g.relations.filter fun id _ => id ∉ []) = g.relations := by
    ext1
    simp
  rw [strike, hnodes, hrelations]

theorem strike_strike (g : Graph) (ids ids' : List RelationId) :
    (g.strike ids).strike ids' = g.strike (ids ++ ids') := by
  have hnodes : (g.nodes.mapValues fun _ node => node.strike ids).mapValues
      (fun _ node => node.strike ids') =
        g.nodes.mapValues fun _ node => node.strike (ids ++ ids') := by
    ext1
    simp [List.map_map, Function.comp_def, Node.strike_strike]
  have hrelations : (g.relations.filter fun id _ => id ∉ ids).filter (fun id _ => id ∉ ids')
      = g.relations.filter fun id _ => id ∉ ids ++ ids' := by
    ext1
    simp [List.filter_filter, not_or, Bool.and_comm]
  simp only [strike, hnodes, hrelations]

theorem get?_nodes_strike (g : Graph) (ids : List RelationId) (id : NodeId) :
    (g.strike ids).nodes.get? id = (g.nodes.get? id).map (·.strike ids) :=
  OrderedMap.get?_mapValues _ _ _

@[simp] theorem keys_nodes_strike (g : Graph) (ids : List RelationId) :
    (g.strike ids).nodes.keys = g.nodes.keys :=
  OrderedMap.keys_mapValues _ _

theorem get?_relations_strike {g : Graph} {ids : List RelationId} {r : RelationId}
    {relation : Relation} : (g.strike ids).relations.get? r = some relation ↔
      g.relations.get? r = some relation ∧ r ∉ ids := by
  simp [strike, OrderedMap.get?_filter_eq_some_iff]

theorem relationsWhere_strike (g : Graph) (ids : List RelationId) (p : Relation → Bool) :
    (g.strike ids).relationsWhere p = (g.relationsWhere p).filter (· ∉ ids) := by
  simp [relationsWhere, strike, List.filter_map, List.filter_filter, Function.comp_def,
    Bool.and_comm]

/-- Replacing a relation does not change what a test selects, if the test does not see it. -/
theorem relationsWhere_modifyRelation {g : Graph} {r : RelationId} {f : Relation → Relation}
    {p : Relation → Bool}
    (hp : ∀ relation, g.relations.get? r = some relation → p (f relation) = p relation) :
    (modifyRelation r f g).relationsWhere p = g.relationsWhere p := by
  simp only [relationsWhere, modifyRelation, OrderedMap.entries_modify, List.filter_map,
    List.map_map]
  refine congrArg (List.map Prod.fst) (List.filter_congr fun e he => ?_)
  simp only [Function.comp_apply]
  split
  · next hid =>
    subst hid
    exact hp e.2 (OrderedMap.get?_eq_some_iff.2 he)
  · rfl

/-! ## Striking at the two ends -/

namespace WellFormed

variable {g : Graph} {r : RelationId} {relation : Relation}

/-- In a well-formed graph a relation is listed at its two ends only, so it is struck everywhere
once it is struck there. -/
theorem strike_node (h : g.WellFormed) (hr : g.relations.get? r = some relation) {id : NodeId}
    {node : Node} (hn : g.nodes.get? id = some node) :
    node.strike [r] =
      (if id = relation.target then Node.dropIncoming r else fun node => node)
        ((if id = relation.source then Node.dropOutgoing r else fun node => node) node) := by
  -- A list that could hold `r` only at another node has nothing to strike.
  have houtgoing : id ≠ relation.source → node.outgoing.filter (· ∉ [r]) = node.outgoing := by
    intro hne
    refine List.filter_eq_self.2 fun r' hr' => ?_
    obtain ⟨relation', hrel, hs⟩ := (h.mem_outgoing hn).1 hr'
    have hne' : r' ≠ r := by
      rintro rfl
      exact hne (hs ▸ congrArg Relation.source (Option.some.inj (hrel.symm.trans hr)))
    simpa using hne'
  have hincoming : id ≠ relation.target → node.incoming.filter (· ∉ [r]) = node.incoming := by
    intro hne
    refine List.filter_eq_self.2 fun r' hr' => ?_
    obtain ⟨relation', hrel, ht⟩ := (h.mem_incoming hn).1 hr'
    have hne' : r' ≠ r := by
      rintro rfl
      exact hne (ht ▸ congrArg Relation.target (Option.some.inj (hrel.symm.trans hr)))
    simpa using hne'
  by_cases hs : id = relation.source
  · by_cases ht : id = relation.target
    · exact absurd (hs.symm.trans ht) (h.ends_differ hr)
    · rw [if_neg ht, if_pos hs, Node.strike, hincoming ht]
      simp [Node.dropOutgoing]
  · by_cases ht : id = relation.target
    · rw [if_pos ht, if_neg hs, Node.strike, houtgoing hs]
      simp [Node.dropIncoming]
    · rw [if_neg ht, if_neg hs, Node.strike, houtgoing hs, hincoming ht]

theorem strike_of_get? (h : g.WellFormed) (hr : g.relations.get? r = some relation) :
    g.strike [r] =
      { g with
        nodes := (g.nodes.modify relation.source (·.dropOutgoing r)).modify relation.target
          (·.dropIncoming r)
        relations := g.relations.erase r } := by
  have hnodes : (g.nodes.mapValues fun _ node => node.strike [r]) =
      (g.nodes.modify relation.source (·.dropOutgoing r)).modify relation.target
        (·.dropIncoming r) := by
    ext1
    simp only [OrderedMap.entries_mapValues, OrderedMap.entries_modify, List.map_map]
    refine List.map_congr_left fun e he => ?_
    have hn : g.nodes.get? e.1 = some e.2 := OrderedMap.get?_eq_some_iff.2 he
    rw [h.strike_node hr hn]
    simp only [Function.comp_apply]
    split <;> split <;> rfl
  have hrelations : (g.relations.filter fun id _ => id ∉ [r]) = g.relations.erase r := by
    ext1
    simp
  rw [strike, hnodes, hrelations]

end WellFormed

/-! ## Well-formedness is kept -/

section Preservation

variable {g : Graph}

theorem wellFormed_addNode (h : g.WellFormed) (pattern : String) :
    (g.addNode pattern).WellFormed := by
  have hnew := h.nextNode_not_mem
  have hkeys : (g.addNode pattern).nodes.keys = g.nodes.keys ++ [⟨g.nextNode⟩] :=
    OrderedMap.keys_insert_of_get?_eq_none (OrderedMap.get?_eq_none_iff.2 hnew) _
  have hget : ∀ {id node}, (g.addNode pattern).nodes.get? id = some node →
      (id = ⟨g.nextNode⟩ ∧ node = { pattern }) ∨ g.nodes.get? id = some node := by
    intro id node hn
    rw [addNode, OrderedMap.get?_insert] at hn
    split at hn
    · next hid => exact .inl ⟨hid, (Option.some.inj hn).symm⟩
    · exact .inr hn
  constructor
  case nodes_ascend =>
    rw [hkeys, List.pairwise_append]
    refine ⟨h.nodes_ascend, List.pairwise_singleton _ _, fun a ha b hb => ?_⟩
    rw [List.mem_singleton.1 hb]
    exact h.nodes_issued a ha
  case nodes_issued =>
    intro id hid
    rw [hkeys, List.mem_append, List.mem_singleton] at hid
    rcases hid with hid | rfl
    · exact Nat.lt_succ_of_lt (h.nodes_issued id hid)
    · exact Nat.lt_succ_self _
  case relations_ascend => exact h.relations_ascend
  case relations_issued => exact h.relations_issued
  case ends_differ => exact h.ends_differ
  case source_live =>
    intro r relation hr
    rw [hkeys]
    exact List.mem_append_left _ (h.source_live hr)
  case target_live =>
    intro r relation hr
    rw [hkeys]
    exact List.mem_append_left _ (h.target_live hr)
  case outgoing_eq =>
    intro id node hn
    rcases hget hn with ⟨rfl, rfl⟩ | hn
    · exact (h.startingAt_eq_nil hnew).symm
    · exact h.outgoing_eq hn
  case incoming_eq =>
    intro id node hn
    rcases hget hn with ⟨rfl, rfl⟩ | hn
    · exact (h.endingAt_eq_nil hnew).symm
    · exact h.incoming_eq hn
  case head_eq_none_iff =>
    rw [hkeys]
    cases hh : g.head <;> simp [addNode, hh]
  case head_live =>
    intro id hid
    rw [hkeys, List.mem_append]
    cases hh : g.head with
    | none =>
        have heq : (⟨g.nextNode⟩ : NodeId) = id := by simpa [addNode, hh] using hid
        exact .inr (by simp [heq])
    | some old =>
        have heq : old = id := by simpa [addNode, hh] using hid
        exact .inl (heq ▸ h.head_live hh)

/-- The new relation is the last one of the table. -/
theorem WellFormed.relationsWhere_addRelation (h : g.WellFormed) (source target : NodeId)
    (descriptor : Relation.Descriptor) (p : Relation → Bool) :
    (g.addRelation source target descriptor).relationsWhere p =
      g.relationsWhere p ++ if p ⟨source, target, descriptor⟩ then [⟨g.nextRelation⟩] else [] := by
  have hnone := OrderedMap.get?_eq_none_iff.2 h.nextRelation_not_mem
  simp only [relationsWhere, addRelation, OrderedMap.entries_insert_of_get?_eq_none hnone,
    List.filter_append, List.map_append, List.filter_cons, List.filter_nil]
  split <;> rfl

theorem wellFormed_addRelation (h : g.WellFormed) {source target : NodeId}
    (hs : source ∈ g.nodes.keys) (ht : target ∈ g.nodes.keys) (hne : source ≠ target)
    (descriptor : Relation.Descriptor) :
    (g.addRelation source target descriptor).WellFormed := by
  have hnone := OrderedMap.get?_eq_none_iff.2 h.nextRelation_not_mem
  have hnodes : (g.addRelation source target descriptor).nodes.keys = g.nodes.keys := by
    simp [addRelation]
  have hkeys : (g.addRelation source target descriptor).relations.keys =
      g.relations.keys ++ [⟨g.nextRelation⟩] :=
    OrderedMap.keys_insert_of_get?_eq_none hnone _
  have hget : ∀ {r relation}, (g.addRelation source target descriptor).relations.get? r
      = some relation → relation = ⟨source, target, descriptor⟩ ∨
        g.relations.get? r = some relation := by
    intro r relation hr
    rw [addRelation, OrderedMap.get?_insert] at hr
    split at hr
    · exact .inl (Option.some.inj hr).symm
    · exact .inr hr
  constructor
  case nodes_ascend => rw [hnodes]; exact h.nodes_ascend
  case nodes_issued => rw [hnodes]; exact h.nodes_issued
  case relations_ascend =>
    rw [hkeys, List.pairwise_append]
    refine ⟨h.relations_ascend, List.pairwise_singleton _ _, fun a ha b hb => ?_⟩
    rw [List.mem_singleton.1 hb]
    exact h.relations_issued a ha
  case relations_issued =>
    intro r hr
    rw [hkeys, List.mem_append, List.mem_singleton] at hr
    rcases hr with hr | rfl
    · exact Nat.lt_succ_of_lt (h.relations_issued r hr)
    · exact Nat.lt_succ_self _
  case ends_differ =>
    intro r relation hr
    rcases hget hr with rfl | hr
    · exact hne
    · exact h.ends_differ hr
  case source_live =>
    intro r relation hr
    rw [hnodes]
    rcases hget hr with rfl | hr
    · exact hs
    · exact h.source_live hr
  case target_live =>
    intro r relation hr
    rw [hnodes]
    rcases hget hr with rfl | hr
    · exact ht
    · exact h.target_live hr
  case outgoing_eq =>
    intro id node hn
    rw [get?_nodes_addRelation] at hn
    obtain ⟨old, hold, rfl⟩ := Option.map_eq_some_iff.1 hn
    rw [startingAt, h.relationsWhere_addRelation, ← startingAt, h.outgoing_eq hold]
    simp
  case incoming_eq =>
    intro id node hn
    rw [get?_nodes_addRelation] at hn
    obtain ⟨old, hold, rfl⟩ := Option.map_eq_some_iff.1 hn
    rw [endingAt, h.relationsWhere_addRelation, ← endingAt, h.incoming_eq hold]
    simp
  case head_eq_none_iff => rw [hnodes]; exact h.head_eq_none_iff
  case head_live => rw [hnodes]; exact h.head_live

theorem wellFormed_strike (h : g.WellFormed) (ids : List RelationId) :
    (g.strike ids).WellFormed := by
  have hnodes : (g.strike ids).nodes.keys = g.nodes.keys := keys_nodes_strike g ids
  have hkeys : (g.strike ids).relations.keys.Sublist g.relations.keys :=
    OrderedMap.keys_filter_sublist _ _
  constructor
  case nodes_ascend => rw [hnodes]; exact h.nodes_ascend
  case nodes_issued => rw [hnodes]; exact h.nodes_issued
  case relations_ascend => exact h.relations_ascend.sublist hkeys
  case relations_issued => exact fun r hr => h.relations_issued r (hkeys.subset hr)
  case ends_differ => exact fun hr => h.ends_differ (get?_relations_strike.1 hr).1
  case source_live =>
    intro r relation hr
    rw [hnodes]
    exact h.source_live (get?_relations_strike.1 hr).1
  case target_live =>
    intro r relation hr
    rw [hnodes]
    exact h.target_live (get?_relations_strike.1 hr).1
  case outgoing_eq =>
    intro id node hn
    rw [get?_nodes_strike] at hn
    obtain ⟨old, hold, rfl⟩ := Option.map_eq_some_iff.1 hn
    rw [startingAt, relationsWhere_strike, ← startingAt, ← h.outgoing_eq hold]
    rfl
  case incoming_eq =>
    intro id node hn
    rw [get?_nodes_strike] at hn
    obtain ⟨old, hold, rfl⟩ := Option.map_eq_some_iff.1 hn
    rw [endingAt, relationsWhere_strike, ← endingAt, ← h.incoming_eq hold]
    rfl
  case head_eq_none_iff => rw [hnodes]; exact h.head_eq_none_iff
  case head_live => rw [hnodes]; exact h.head_live

/-- A node that no relation touches can be dropped. -/
theorem wellFormed_dropNode (h : g.WellFormed) {id : NodeId}
    (hfree : ∀ {r relation}, g.relations.get? r = some relation → ¬ relation.Touches id) :
    (dropNode id g).WellFormed := by
  have hkeys : (dropNode id g).nodes.keys = g.nodes.keys.filter (· ≠ id) :=
    OrderedMap.keys_erase _ _
  have hmem : ∀ {id'}, id' ∈ (dropNode id g).nodes.keys ↔ id' ∈ g.nodes.keys ∧ id' ≠ id := by
    intro id'
    rw [hkeys]
    simp
  have hget : ∀ {id' node}, (dropNode id g).nodes.get? id' = some node →
      g.nodes.get? id' = some node := by
    intro id' node hn
    rw [dropNode, OrderedMap.get?_erase] at hn
    split at hn
    · exact absurd hn (by simp)
    · exact hn
  constructor
  case nodes_ascend => rw [hkeys]; exact h.nodes_ascend.sublist List.filter_sublist
  case nodes_issued => exact fun id' hid => h.nodes_issued id' (hmem.1 hid).1
  case relations_ascend => exact h.relations_ascend
  case relations_issued => exact h.relations_issued
  case ends_differ => exact h.ends_differ
  case source_live => exact fun hr => hmem.2 ⟨h.source_live hr, fun hs => hfree hr (.inl hs)⟩
  case target_live => exact fun hr => hmem.2 ⟨h.target_live hr, fun ht => hfree hr (.inr ht)⟩
  case outgoing_eq => exact fun hn => h.outgoing_eq (hget hn)
  case incoming_eq => exact fun hn => h.incoming_eq (hget hn)
  case head_eq_none_iff =>
    -- The head moves to the oldest node that is left only if it is the head that is dropped.
    by_cases hh : g.head = some id
    · simp only [dropNode, if_pos hh, List.head?_eq_none_iff]
    · simp only [dropNode, if_neg hh]
      rw [h.head_eq_none_iff]
      constructor
      · intro hnil
        simp [hnil]
      · intro hnil
        refine h.head_eq_none_iff.1 (Option.eq_none_iff_forall_ne_some.2 fun a ha => ?_)
        have hm := hmem.2 ⟨h.head_live ha, fun heq => hh (heq ▸ ha)⟩
        exact List.ne_nil_of_mem hm hnil
  case head_live =>
    intro a ha
    by_cases hh : g.head = some id
    · simp only [dropNode, if_pos hh] at ha
      exact List.mem_of_head? ha
    · simp only [dropNode, if_neg hh] at ha
      exact hmem.2 ⟨h.head_live ha, fun heq => hh (heq ▸ ha)⟩

/-- A node can be replaced by one with the same lists. -/
theorem wellFormed_modifyNode (h : g.WellFormed) {id : NodeId} {f : Node → Node}
    (hf : ∀ node, g.nodes.get? id = some node →
      (f node).incoming = node.incoming ∧ (f node).outgoing = node.outgoing) :
    (modifyNode id f g).WellFormed := by
  have hkeys : (modifyNode id f g).nodes.keys = g.nodes.keys := OrderedMap.keys_modify _ _ _
  have hget : ∀ {id' node}, (modifyNode id f g).nodes.get? id' = some node →
      ∃ old, g.nodes.get? id' = some old ∧ node.incoming = old.incoming ∧
        node.outgoing = old.outgoing := by
    intro id' node hn
    rw [modifyNode, OrderedMap.get?_modify] at hn
    split at hn
    · next hid =>
      subst hid
      obtain ⟨old, hold, rfl⟩ := Option.map_eq_some_iff.1 hn
      exact ⟨old, hold, hf old hold⟩
    · exact ⟨node, hn, rfl, rfl⟩
  constructor
  case nodes_ascend => rw [hkeys]; exact h.nodes_ascend
  case nodes_issued => rw [hkeys]; exact h.nodes_issued
  case relations_ascend => exact h.relations_ascend
  case relations_issued => exact h.relations_issued
  case ends_differ => exact h.ends_differ
  case source_live => rw [hkeys]; exact h.source_live
  case target_live => rw [hkeys]; exact h.target_live
  case outgoing_eq =>
    intro id' node hn
    obtain ⟨old, hold, -, ho⟩ := hget hn
    exact ho.trans (h.outgoing_eq hold)
  case incoming_eq =>
    intro id' node hn
    obtain ⟨old, hold, hi, -⟩ := hget hn
    exact hi.trans (h.incoming_eq hold)
  case head_eq_none_iff => rw [hkeys]; exact h.head_eq_none_iff
  case head_live => rw [hkeys]; exact h.head_live

/-- A relation can be replaced by one with the same ends. -/
theorem wellFormed_modifyRelation (h : g.WellFormed) {r : RelationId} {f : Relation → Relation}
    (hf : ∀ relation, g.relations.get? r = some relation →
      (f relation).source = relation.source ∧ (f relation).target = relation.target) :
    (modifyRelation r f g).WellFormed := by
  have hkeys : (modifyRelation r f g).relations.keys = g.relations.keys :=
    OrderedMap.keys_modify _ _ _
  have hget : ∀ {r' relation}, (modifyRelation r f g).relations.get? r' = some relation →
      ∃ old, g.relations.get? r' = some old ∧ relation.source = old.source ∧
        relation.target = old.target := by
    intro r' relation hr
    rw [modifyRelation, OrderedMap.get?_modify] at hr
    split at hr
    · next hid =>
      subst hid
      obtain ⟨old, hold, rfl⟩ := Option.map_eq_some_iff.1 hr
      exact ⟨old, hold, hf old hold⟩
    · exact ⟨relation, hr, rfl, rfl⟩
  constructor
  case nodes_ascend => exact h.nodes_ascend
  case nodes_issued => exact h.nodes_issued
  case relations_ascend => rw [hkeys]; exact h.relations_ascend
  case relations_issued => rw [hkeys]; exact h.relations_issued
  case ends_differ =>
    intro r' relation hr
    obtain ⟨old, hold, hs, ht⟩ := hget hr
    rw [hs, ht]
    exact h.ends_differ hold
  case source_live =>
    intro r' relation hr
    obtain ⟨old, hold, hs, -⟩ := hget hr
    exact hs ▸ h.source_live hold
  case target_live =>
    intro r' relation hr
    obtain ⟨old, hold, -, ht⟩ := hget hr
    exact ht ▸ h.target_live hold
  case outgoing_eq =>
    intro id node hn
    rw [startingAt, relationsWhere_modifyRelation fun old hold => by rw [(hf old hold).1]]
    exact h.outgoing_eq hn
  case incoming_eq =>
    intro id node hn
    rw [endingAt, relationsWhere_modifyRelation fun old hold => by rw [(hf old hold).2]]
    exact h.incoming_eq hn
  case head_eq_none_iff => exact h.head_eq_none_iff
  case head_live => exact h.head_live

theorem wellFormed_withHead (h : g.WellFormed) {id : NodeId} (hid : id ∈ g.nodes.keys) :
    { g with head := some id }.WellFormed :=
  { h with
    head_eq_none_iff := by
      simp [List.ne_nil_of_mem hid]
    head_live := fun hh => Option.some.inj hh ▸ hid }

end Preservation

/-- A graph without nodes and relations is well-formed, whatever its counters are. -/
theorem wellFormed_of_empty (nextNode nextRelation : Nat) :
    { empty with nextNode, nextRelation }.WellFormed where
  nodes_ascend := List.Pairwise.nil
  nodes_issued := fun _ hid => absurd hid (by simp [empty])
  relations_ascend := List.Pairwise.nil
  relations_issued := fun _ hr => absurd hr (by simp [empty])
  ends_differ := fun hr => absurd hr (by simp [empty])
  source_live := fun hr => absurd hr (by simp [empty])
  target_live := fun hr => absurd hr (by simp [empty])
  outgoing_eq := fun hn => absurd hn (by simp [empty])
  incoming_eq := fun hn => absurd hn (by simp [empty])
  head_eq_none_iff := by simp [empty]
  head_live := fun hh => absurd hh (by simp [empty])

end Graph

end TreeQuery
