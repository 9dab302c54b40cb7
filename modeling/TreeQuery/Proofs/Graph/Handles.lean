import Mathlib.Data.List.Nodup
import TreeQuery.Proofs.Graph.Refusal
import TreeQuery.Proofs.Query.Outcome

set_option autoImplicit false

/-! # Handles are never reused

Nodes and relations are numbered in the same way, so what is said here of handles is said once, for
a `HandleSort`. One request hands out at most one handle, the next one, and no other comes to life
(`WellFormed.effect`); hence a history hands out consecutive numbers (`HandleSort.Numbered.replay`),
and a handle that has been removed stays so (`HandleSort.Numbered.retired`). What is not there is
mentioned nowhere in a well-formed graph, and every request that needs it is refused. -/

namespace TreeQuery.Graph

variable {g g' g'' : Graph}

/-! ## Sorts of handles -/

/-- One sort of handles: their numbers, the number of the next one, which of them are live, and the
one that an answer hands out. -/
structure HandleSort (α : Type) where
  index : α → Nat
  next : Graph → Nat
  live : Graph → List α
  created? : Answer → Option α

/-- The handles of nodes. -/
def nodeHandles : HandleSort NodeId where
  index := NodeId.index
  next := Graph.nextNode
  live g := g.nodes.keys
  created?
    | .createdNode id => some id
    | _ => none

/-- The handles of relations. -/
def relationHandles : HandleSort RelationId where
  index := RelationId.index
  next := Graph.nextRelation
  live g := g.relations.keys
  created?
    | .createdRelation id => some id
    | _ => none

namespace HandleSort

variable {α : Type} {k : HandleSort α} {ids ids' : List α} {id : α}

/-- The handle that an answer hands out, as a list; an error hands out none. -/
def issued (k : HandleSort α) (answer : Except Error Answer) : List α :=
  (answer.toOption.bind k.created?).toList

/-- The handles that a history hands out, in order. -/
def created (k : HandleSort α) (g : Graph) (history : List Edit) : List α :=
  (g.answers history).flatMap k.issued

/-- From one graph to a later one: the handles that have been handed out have the next numbers, and
what is live was live before or is one of them. -/
structure Advances (k : HandleSort α) (g : Graph) (ids : List α) (g' : Graph) : Prop where
  numbers : ids.map k.index = List.range' (k.next g) ids.length
  next_eq : k.next g' = k.next g + ids.length
  live : ∀ id ∈ k.live g', id ∈ k.live g ∨ id ∈ ids

/-- A handle has been handed out, and it is not live any more. -/
structure Retired (k : HandleSort α) (g : Graph) (id : α) : Prop where
  issued : k.index id < k.next g
  not_live : id ∉ k.live g

namespace Advances

/-- Nothing is handed out. -/
theorem of_subset (hnext : k.next g' = k.next g) (hlive : k.live g' ⊆ k.live g) :
    k.Advances g [] g' where
  numbers := rfl
  next_eq := hnext
  live := fun _ hid => .inl (hlive hid)

/-- The next handle is handed out. -/
theorem of_next (hid : k.index id = k.next g) (hnext : k.next g' = k.next g + 1)
    (hlive : k.live g' ⊆ k.live g ++ [id]) : k.Advances g [id] g' where
  numbers := by rw [List.map_singleton, hid]; rfl
  next_eq := hnext
  live := fun _ hm => List.mem_append.1 (hlive hm)

theorem refl (k : HandleSort α) (g : Graph) : k.Advances g [] g :=
  of_subset rfl (List.Subset.refl _)

theorem trans (h : k.Advances g ids g') (h' : k.Advances g' ids' g'') :
    k.Advances g (ids ++ ids') g'' where
  numbers := by
    rw [List.map_append, h.numbers, h'.numbers, h.next_eq, List.length_append,
      List.range'_append_1]
  next_eq := by rw [h'.next_eq, h.next_eq, List.length_append, Nat.add_assoc]
  live := by
    intro id hid
    rcases h'.live id hid with hid | hid
    · exact (h.live id hid).imp_right (List.mem_append_left _)
    · exact .inr (List.mem_append_right _ hid)

theorem nodup (h : k.Advances g ids g') : ids.Nodup := by
  have hnumbers : (ids.map k.index).Nodup := by
    rw [h.numbers]
    exact List.nodup_range'
  exact hnumbers.of_map

theorem next_le (h : k.Advances g ids g') : k.next g ≤ k.next g' := by
  rw [h.next_eq]
  exact Nat.le_add_right _ _

/-- A handle that has been removed is not handed out again. -/
theorem retired (h : k.Advances g ids g') (hid : k.Retired g id) : k.Retired g' id where
  issued := Nat.lt_of_lt_of_le hid.issued h.next_le
  not_live := by
    intro hlive
    rcases h.live id hlive with hlive | hnew
    · exact hid.not_live hlive
    · have hnumber := List.mem_map_of_mem (f := k.index) hnew
      rw [h.numbers, List.mem_range'_1] at hnumber
      exact Nat.not_lt.2 hnumber.1 hid.issued

end Advances

/-- Handles of this sort are numbered in the order in which requests hand them out, and what is live
has been handed out. -/
structure Numbered (k : HandleSort α) : Prop where
  perform : ∀ {g : Graph}, g.WellFormed → ∀ e,
    k.Advances g (k.issued (g.perform e).1) (g.perform e).2
  live_lt : ∀ {g : Graph}, g.WellFormed → ∀ id ∈ k.live g, k.index id < k.next g

namespace Numbered

theorem replay (hk : k.Numbered) (h : g.WellFormed) (history : List Edit) :
    k.Advances g (k.created g history) (g.replay history) := by
  induction history generalizing g with
  | nil => exact .refl k g
  | cons e es ih => exact (hk.perform h e).trans (ih (h.perform e))

/-- What was live once and is not live later is never live again. -/
theorem retired (hk : k.Numbered) (h : g.WellFormed) {between after : List Edit}
    (hlive : id ∈ k.live g) (hremoved : id ∉ k.live (g.replay between)) :
    k.Retired ((g.replay between).replay after) id := by
  have hbetween := hk.replay h between
  have hretired : k.Retired (g.replay between) id :=
    ⟨Nat.lt_of_lt_of_le (hk.live_lt h id hlive) hbetween.next_le, hremoved⟩
  exact (hk.replay (h.replay between) after).retired hretired

end Numbered

end HandleSort

/-! ## What one request does to handles -/

/-- Nothing comes to life, and no counter moves. -/
structure Shrinks (g g' : Graph) : Prop where
  nextNode_eq : g'.nextNode = g.nextNode
  nextRelation_eq : g'.nextRelation = g.nextRelation
  nodes_subset : g'.nodes.keys ⊆ g.nodes.keys
  relations_subset : g'.relations.keys ⊆ g.relations.keys

theorem Shrinks.refl (g : Graph) : g.Shrinks g :=
  ⟨rfl, rfl, List.Subset.refl _, List.Subset.refl _⟩

theorem Shrinks.trans (h : g.Shrinks g') (h' : g'.Shrinks g'') : g.Shrinks g'' where
  nextNode_eq := h'.nextNode_eq.trans h.nextNode_eq
  nextRelation_eq := h'.nextRelation_eq.trans h.nextRelation_eq
  nodes_subset := List.Subset.trans h'.nodes_subset h.nodes_subset
  relations_subset := List.Subset.trans h'.relations_subset h.relations_subset

theorem shrinks_strike (g : Graph) (ids : List RelationId) : g.Shrinks (g.strike ids) where
  nextNode_eq := rfl
  nextRelation_eq := rfl
  nodes_subset := by rw [keys_nodes_strike]; exact List.Subset.refl _
  relations_subset := (OrderedMap.keys_filter_sublist _ _).subset

theorem shrinks_dropNode (g : Graph) (id : NodeId) : g.Shrinks (dropNode id g) where
  nextNode_eq := rfl
  nextRelation_eq := rfl
  nodes_subset := (OrderedMap.keys_filter_sublist _ _).subset
  relations_subset := List.Subset.refl _

theorem shrinks_editNode (id : NodeId) (edit : Node.Edit) (g : Graph) :
    g.Shrinks ((editNode id edit).on g).2 := by
  rw [on_editNode]
  split
  · exact .refl g
  · split
    · exact ⟨rfl, rfl, by simp [modifyNode], List.Subset.refl _⟩
    · exact .refl g

theorem shrinks_editRelation (r : RelationId) (edit : Relation.Descriptor.Edit) (g : Graph) :
    g.Shrinks ((editRelation r edit).on g).2 := by
  rw [on_editRelation]
  split
  · exact .refl g
  · exact ⟨rfl, rfl, List.Subset.refl _, by simp [modifyRelation]⟩

theorem shrinks_setHead (id : NodeId) (g : Graph) : g.Shrinks ((setHead id).on g).2 := by
  rw [on_setHead]
  split
  · exact ⟨rfl, rfl, List.Subset.refl _, List.Subset.refl _⟩
  · exact .refl g

theorem shrinks_clear (g : Graph) : g.Shrinks (clear.on g).2 :=
  ⟨rfl, rfl, List.nil_subset _, List.nil_subset _⟩

theorem WellFormed.shrinks_removeNode (h : g.WellFormed) (id : NodeId) (force : Bool) :
    g.Shrinks ((removeNode id force).on g).2 := by
  rw [h.on_removeNode]
  split
  · exact .refl g
  · split
    · exact .refl g
    · exact (shrinks_strike g _).trans (shrinks_dropNode _ id)

theorem WellFormed.shrinks_deleteRelation (h : g.WellFormed) (r : RelationId) :
    g.Shrinks ((deleteRelation r).on g).2 := by
  rw [h.on_deleteRelation]
  split
  · exact .refl g
  · exact shrinks_strike g [r]

/-- What a request comes to, as far as handles are concerned: it hands out none, or the next node,
or the next relation. A reversal strikes a relation before it creates one. -/
inductive Effect (g : Graph) : Except Error Answer × Graph → Prop
  | quiet {answer : Except Error Answer} {g' : Graph} (hnode : nodeHandles.issued answer = [])
      (hrelation : relationHandles.issued answer = []) (h : g.Shrinks g') : Effect g (answer, g')
  | node (pattern : String) : Effect g (.ok (.createdNode ⟨g.nextNode⟩), g.addNode pattern)
  | relation {g' : Graph} (h : g.Shrinks g') (source target : NodeId)
      (descriptor : Relation.Descriptor) :
      Effect g (.ok (.createdRelation ⟨g.nextRelation⟩), g'.addRelation source target descriptor)

section Operations

variable {α : Type} {m : Mutation α} {f : α → Answer} {e : Edit}

/-- An operation that never answers with a new handle has to shrink the graph. -/
theorem effect_of_shrinks (he : e.mutation = f <$> m)
    (hnode : ∀ a, nodeHandles.created? (f a) = none)
    (hrelation : ∀ a, relationHandles.created? (f a) = none) (h : g.Shrinks (m.on g).2) :
    g.Effect (g.perform e) := by
  rw [perform, he, Mutation.on_map]
  refine .quiet ?_ ?_ h
  · cases (m.on g).1 with
    | error error => rfl
    | ok a => exact congrArg Option.toList (hnode a)
  · cases (m.on g).1 with
    | error error => rfl
    | ok a => exact congrArg Option.toList (hrelation a)

end Operations

theorem effect_createRelation (source target : NodeId) (descriptor : Relation.Descriptor) :
    g.Effect (g.perform (.createRelation source target descriptor)) := by
  rw [perform, Edit.mutation, Mutation.on_map, on_createRelation]
  split
  · exact .quiet rfl rfl (.refl g)
  · split
    · exact .quiet rfl rfl (.refl g)
    · split
      · exact .quiet rfl rfl (.refl g)
      · exact .relation (.refl g) source target descriptor

namespace WellFormed

theorem effect_reverseRelation (h : g.WellFormed) (r : RelationId) :
    g.Effect (g.perform (.reverseRelation r)) := by
  rw [Graph.perform, Edit.mutation, Mutation.on_map, h.on_reverseRelation]
  split
  · exact .quiet rfl rfl (.refl g)
  · next relation hr =>
    exact .relation (shrinks_strike g [r]) relation.target relation.source relation.descriptor

theorem effect (h : g.WellFormed) (e : Edit) : g.Effect (g.perform e) := by
  cases e with
  | createNode pattern => exact .node pattern
  | deleteNode id =>
      exact effect_of_shrinks rfl (fun _ => rfl) (fun _ => rfl) (h.shrinks_removeNode id false)
  | forceDeleteNode id =>
      exact effect_of_shrinks rfl (fun _ => rfl) (fun _ => rfl) (h.shrinks_removeNode id true)
  | clear => exact effect_of_shrinks rfl (fun _ => rfl) (fun _ => rfl) (shrinks_clear g)
  | setHead id => exact effect_of_shrinks rfl (fun _ => rfl) (fun _ => rfl) (shrinks_setHead id g)
  | editNode id edit =>
      exact effect_of_shrinks rfl (fun _ => rfl) (fun _ => rfl) (shrinks_editNode id edit g)
  | createRelation source target descriptor => exact effect_createRelation source target descriptor
  | deleteRelation r =>
      exact effect_of_shrinks rfl (fun _ => rfl) (fun _ => rfl) (h.shrinks_deleteRelation r)
  | reverseRelation r => exact h.effect_reverseRelation r
  | editRelation r edit =>
      exact effect_of_shrinks rfl (fun _ => rfl) (fun _ => rfl) (shrinks_editRelation r edit g)

end WellFormed

/-! ## Both sorts of handles are numbered -/

theorem Effect.advances_node {x : Except Error Answer × Graph} (h : g.Effect x) :
    nodeHandles.Advances g (nodeHandles.issued x.1) x.2 := by
  cases h with
  | quiet hnode hrelation h =>
      rw [hnode]
      exact .of_subset h.nextNode_eq h.nodes_subset
  | node pattern =>
      refine .of_next rfl rfl fun id hid => ?_
      rcases OrderedMap.mem_keys_insert.1 hid with rfl | hid
      · exact List.mem_append_right _ (List.mem_singleton_self _)
      · exact List.mem_append_left _ hid
  | relation h source target descriptor =>
      refine .of_subset h.nextNode_eq fun id hid => h.nodes_subset ?_
      simpa [nodeHandles, addRelation] using hid

theorem Effect.advances_relation {x : Except Error Answer × Graph} (h : g.Effect x) :
    relationHandles.Advances g (relationHandles.issued x.1) x.2 := by
  cases h with
  | quiet hnode hrelation h =>
      rw [hrelation]
      exact .of_subset h.nextRelation_eq h.relations_subset
  | node pattern => exact .of_subset rfl (List.Subset.refl _)
  | relation h source target descriptor =>
      refine .of_next rfl (congrArg (· + 1) h.nextRelation_eq) fun id hid => ?_
      rcases OrderedMap.mem_keys_insert.1 hid with rfl | hid
      · rw [h.nextRelation_eq]
        exact List.mem_append_right _ (List.mem_singleton_self _)
      · exact List.mem_append_left _ (h.relations_subset hid)

theorem numbered_nodeHandles : nodeHandles.Numbered where
  perform := fun h e => (h.effect e).advances_node
  live_lt := fun h => h.nodes_issued

theorem numbered_relationHandles : relationHandles.Numbered where
  perform := fun h e => (h.effect e).advances_relation
  live_lt := fun h => h.relations_issued

/-! ## Handles that are not live -/

/-- The nodes that have to be there for a request not to be refused. -/
def Edit.nodes : Edit → List NodeId
  | .deleteNode id | .forceDeleteNode id | .setHead id => [id]
  | .createRelation source target _ => [source, target]
  | _ => []

/-- The relations that have to be there for a request not to be refused. -/
def Edit.relations : Edit → List RelationId
  | .deleteRelation r | .reverseRelation r => [r]
  | _ => []

/-- A node is not there: nothing in the graph mentions it, and whoever asks for it is told so. -/
structure WithoutNode [Pattern.Dialect] (g : Graph) (id : NodeId) : Prop where
  not_live : id ∉ g.nodes.keys
  not_end : ∀ r relation, g.relations.get? r = some relation → ¬ relation.Touches id
  not_head : g.head ≠ some id
  /-- A request that needs the node is refused because of a node that it needs and that is not
  there; that is this one, or it is the source of a relation, which is looked for first. -/
  refused : ∀ e : Edit, id ∈ e.nodes →
    ∃ v ∈ e.nodes, v ∉ g.nodes.keys ∧ g.perform e = (.error (.unknownNode v), g)
  not_edited : ∀ edit, g.perform (.editNode id edit) = (.ok (.editedNode none), g)
  incident_eq : g.incident id = .error (.unknownNode id)
  degree_eq : g.degree id = .error (.unknownNode id)
  reachable_eq : g.reachable id = .error (.unknownNode id)
  compileFrom_eq : ∀ config, g.compileFrom id config = .error (.graph (.unknownNode id))

/-- A relation is not there: no node lists it, and whoever asks for it is told so. -/
structure WithoutRelation (g : Graph) (r : RelationId) : Prop where
  not_live : r ∉ g.relations.keys
  not_listed : ∀ id node, g.nodes.get? id = some node → r ∉ node.incoming ∧ r ∉ node.outgoing
  refused : ∀ e : Edit, r ∈ e.relations → g.perform e = (.error (.unknownRelation r), g)
  not_edited : ∀ edit, g.perform (.editRelation r edit) = (.ok (.editedRelation none), g)

/-- A request that needs a node that is not there is refused because of such a node. -/
theorem refusal?_of_mem_nodes {id : NodeId} {e : Edit} (hid : id ∉ g.nodes.keys)
    (he : id ∈ e.nodes) :
    ∃ v ∈ e.nodes, v ∉ g.nodes.keys ∧ g.refusal? e = some (.unknownNode v) := by
  cases e with
  | deleteNode v | forceDeleteNode v | setHead v =>
      obtain rfl := List.mem_singleton.1 he
      exact ⟨id, he, hid, by simp [refusal?, hid]⟩
  | createRelation source target descriptor =>
      by_cases hs : source ∈ g.nodes.keys
      · rcases List.mem_pair.1 he with rfl | rfl
        · exact absurd hs hid
        · refine ⟨id, he, hid, ?_⟩
          rw [refusal?, unknownNode?_of_mem hs, unknownNode?_of_not_mem hid]
          rfl
      · refine ⟨source, List.mem_cons_self .., hs, ?_⟩
        rw [refusal?, unknownNode?_of_not_mem hs]
        rfl
  | _ => exact absurd he List.not_mem_nil

/-- A request that needs a relation that is not there is refused because of it. -/
theorem refusal?_of_mem_relations {r : RelationId} {e : Edit} (hr : r ∉ g.relations.keys)
    (he : r ∈ e.relations) : g.refusal? e = some (.unknownRelation r) := by
  cases e with
  | deleteRelation r' | reverseRelation r' =>
      obtain rfl := List.mem_singleton.1 he
      exact if_neg hr
  | _ => exact absurd he List.not_mem_nil

namespace WellFormed

theorem withoutNode [Pattern.Dialect] (h : g.WellFormed) {id : NodeId} (hid : id ∉ g.nodes.keys) :
    g.WithoutNode id where
  not_live := hid
  not_end := by
    rintro r relation hr (rfl | rfl)
    · exact hid (h.source_live hr)
    · exact hid (h.target_live hr)
  not_head := fun hhead => hid (h.head_live hhead)
  refused := by
    intro e he
    obtain ⟨v, hv, hdead, hrefusal⟩ := refusal?_of_mem_nodes hid he
    have hcomes := h.comesTo e
    rw [hrefusal] at hcomes
    exact ⟨v, hv, hdead, hcomes⟩
  not_edited := by
    intro edit
    rw [Graph.perform, Edit.mutation, Mutation.on_map, on_editNode,
      OrderedMap.get?_eq_none_iff.2 hid]
    rfl
  incident_eq := by rw [incident, OrderedMap.get?_eq_none_iff.2 hid]
  degree_eq := by rw [degree, OrderedMap.get?_eq_none_iff.2 hid]
  reachable_eq := reachable_of_not_mem hid
  compileFrom_eq := compileFrom_of_not_mem hid

theorem withoutRelation (h : g.WellFormed) {r : RelationId} (hr : r ∉ g.relations.keys) :
    g.WithoutRelation r where
  not_live := hr
  not_listed := by
    intro id node hn
    have hunlisted := mt (h.incident_live hn r) hr
    exact ⟨fun hm => hunlisted (List.mem_append_left _ hm),
      fun hm => hunlisted (List.mem_append_right _ hm)⟩
  refused := by
    intro e he
    have hcomes := h.comesTo e
    rw [refusal?_of_mem_relations hr he] at hcomes
    exact hcomes
  not_edited := by
    intro edit
    rw [Graph.perform, Edit.mutation, Mutation.on_map, on_editRelation,
      OrderedMap.get?_eq_none_iff.2 hr]
    rfl

end WellFormed

/-! ## Histories -/

theorem replay_append (g : Graph) (before after : List Edit) :
    g.replay (before ++ after) = (g.replay before).replay after :=
  List.foldl_append ..

/-- **Handles are never reused.** In a history that begins with the empty graph, the nodes that are
created have different handles, and so do the relations that are created or come from a reversal.
A node or relation that was there at some time and is gone at a later one is not there at any time
after that. -/
theorem handles_never_reused [Pattern.Dialect] (history : List Edit) :
    (nodeHandles.created empty history).Nodup ∧ (relationHandles.created empty history).Nodup ∧
    ∀ before between after, history = before ++ between ++ after →
      (∀ id ∈ (empty.replay before).nodes.keys,
        id ∉ (empty.replay (before ++ between)).nodes.keys →
          (empty.replay history).WithoutNode id) ∧
      ∀ r ∈ (empty.replay before).relations.keys,
        r ∉ (empty.replay (before ++ between)).relations.keys →
          (empty.replay history).WithoutRelation r := by
  refine ⟨(numbered_nodeHandles.replay wellFormed_empty history).nodup,
    (numbered_relationHandles.replay wellFormed_empty history).nodup, ?_⟩
  rintro before between after rfl
  have hbefore := wellFormed_empty.replay before
  have hafter := (hbefore.replay between).replay after
  simp only [replay_append]
  constructor
  · intro id hlive hremoved
    exact hafter.withoutNode (numbered_nodeHandles.retired hbefore hlive hremoved).not_live
  · intro r hlive hremoved
    exact hafter.withoutRelation (numbered_relationHandles.retired hbefore hlive hremoved).not_live

/-- A relation is turned around and goes with its target, everything else is cleared, and the same
is drawn again. -/
def redrawing : List Edit :=
  [.createNode "a", .createNode "b", .createRelation ⟨0⟩ ⟨1⟩ {}, .reverseRelation ⟨0⟩,
    .forceDeleteNode ⟨1⟩, .clear, .createNode "a", .createNode "b", .createRelation ⟨2⟩ ⟨3⟩ {}]

/-- The deletion of `1` takes the reversed relation along, the reversal had taken the first one, and
`0` goes with the rest. -/
theorem handles_redrawing :
    nodeHandles.created empty redrawing = [⟨0⟩, ⟨1⟩, ⟨2⟩, ⟨3⟩] ∧
    (nodeHandles.created empty redrawing).Nodup ∧
    relationHandles.created empty redrawing = [⟨0⟩, ⟨1⟩, ⟨2⟩] ∧
    (relationHandles.created empty redrawing).Nodup ∧
    (∀ id ∈ [(⟨0⟩ : NodeId), ⟨1⟩], (empty.replay redrawing).WithoutNode id) ∧
    ∀ r ∈ [(⟨0⟩ : RelationId), ⟨1⟩], (empty.replay redrawing).WithoutRelation r := by
  obtain ⟨hnodes, hrelations, hgone⟩ := handles_never_reused redrawing
  have hcleared := (hgone (redrawing.take 3) ((redrawing.drop 3).take 3) (redrawing.drop 6) rfl).1
  have hreversed := (hgone (redrawing.take 3) ((redrawing.drop 3).take 1) (redrawing.drop 4) rfl).2
  have hcascade := (hgone (redrawing.take 4) ((redrawing.drop 4).take 1) (redrawing.drop 5) rfl).2
  refine ⟨rfl, hnodes, rfl, hrelations, fun id hid => ?_, fun r hr => ?_⟩
  · rcases List.mem_pair.1 hid with rfl | rfl
    · exact hcleared ⟨0⟩ (by decide) (by decide)
    · exact hcleared ⟨1⟩ (by decide) (by decide)
  · rcases List.mem_pair.1 hr with rfl | rfl
    · exact hreversed ⟨0⟩ (by decide) (by decide)
    · exact hcascade ⟨1⟩ (by decide) (by decide)

end TreeQuery.Graph
