import Mathlib.Data.List.Sort
import TreeQuery.Proofs.Graph.Faults

set_option autoImplicit false

/-! # Whole nodes and relations put in place of others

Who can change a node or a relation in place can also put another value in its place, and such a
value brings along the lists, or the ends, that it had elsewhere: a new node lists nothing, and a
copy from another graph lists what it listed there. So a graph stays in step if and only if the
value that is put in agrees with the one that it replaces (`put_inStep_iff`). Nothing checks this,
and where it fails later requests can meet faults (`put_out_of_step`). -/

namespace TreeQuery

/-! ## Values that can be had -/

/-- The nodes that can be had from outside: made anew and edited, copied from a graph, or handed
out when they are deleted. -/
inductive Node.Obtainable : Node → Prop
  | new (pattern : String) : Obtainable { pattern }
  | edited {node node' : Node} {e : Node.Edit} (h : Obtainable node)
      (he : node.edit e = .ok node') : Obtainable node'
  | copied {g : Graph} {id : NodeId} {node : Node} (hg : g.Buildable)
      (hn : g.nodes.get? id = some node) : Obtainable node
  | removed {g g' : Graph} {id : NodeId} {force : Bool} {node : Node} (hg : g.Buildable)
      (hon : (Graph.removeNode id force).on g = (.ok node, g')) : Obtainable node

/-- The relations that can be had from outside: copied from a graph, or handed out when they are
deleted. -/
inductive Relation.Obtainable : Relation → Prop
  | copied {g : Graph} {r : RelationId} {relation : Relation} (hg : g.Buildable)
      (hr : g.relations.get? r = some relation) : Obtainable relation
  | removed {g g' : Graph} {r : RelationId} {relation : Relation} (hg : g.Buildable)
      (hon : (Graph.deleteRelation r).on g = (.ok relation, g')) : Obtainable relation

/-- Handles of relations stand in the order in which they were handed out. -/
def Ascending (ids : List RelationId) : Prop := ids.Pairwise fun a b => a.index < b.index

/-- What an ascending list contains determines it. -/
theorem Ascending.eq_of_mem_iff {ids ids' : List RelationId} (h : Ascending ids)
    (h' : Ascending ids') (hmem : ∀ r, r ∈ ids ↔ r ∈ ids') : ids = ids' := by
  have hirrefl : Std.Irrefl fun a b : RelationId => a.index < b.index :=
    ⟨fun _ => Nat.lt_irrefl _⟩
  have hantisymm : Std.Antisymm fun a b : RelationId => a.index < b.index :=
    ⟨fun _ _ hab hba => absurd hab (Nat.lt_asymm hba)⟩
  exact List.Pairwise.eq_of_mem_iff h h' hmem

theorem Graph.WellFormed.ascending_relationsWhere {g : Graph} (h : g.WellFormed)
    (p : Relation → Bool) : Ascending (g.relationsWhere p) :=
  h.relations_ascend.sublist (List.filter_sublist.map Prod.fst)

/-- Nodes never list relations in another order. -/
theorem Node.Obtainable.ascending {node : Node} (h : node.Obtainable) :
    Ascending node.incoming ∧ Ascending node.outgoing := by
  induction h with
  | new pattern => exact ⟨.nil, .nil⟩
  | edited _ he ih =>
      obtain ⟨hincoming, houtgoing⟩ := Node.lists_of_edit he
      rwa [hincoming, houtgoing]
  | copied hg hn =>
      have h := hg.wellFormed
      rw [h.incoming_eq hn, h.outgoing_eq hn]
      exact ⟨h.ascending_relationsWhere _, h.ascending_relationsWhere _⟩
  | removed hg hon =>
      rw [hg.wellFormed.on_removeNode] at hon
      split at hon
      · exact absurd (congrArg Prod.fst hon) (by simp)
      · split at hon
        · exact absurd (congrArg Prod.fst hon) (by simp)
        · obtain rfl := Except.ok.inj (congrArg Prod.fst hon)
          exact ⟨.nil, .nil⟩

/-- Two nodes list the same relations. -/
def Node.SameLists (node node' : Node) : Prop :=
  ∀ r, (r ∈ node'.incoming ↔ r ∈ node.incoming) ∧ (r ∈ node'.outgoing ↔ r ∈ node.outgoing)

/-- Nodes that can be had and list the same relations have the same lists. -/
theorem Node.SameLists.lists_eq {node node' : Node} (hsame : node.SameLists node')
    (h : node.Obtainable) (h' : node'.Obtainable) :
    node'.incoming = node.incoming ∧ node'.outgoing = node.outgoing :=
  ⟨h'.ascending.1.eq_of_mem_iff h.ascending.1 fun r => (hsame r).1,
    h'.ascending.2.eq_of_mem_iff h.ascending.2 fun r => (hsame r).2⟩

/-- Two relations join the same nodes, in the same direction. -/
def Relation.SameEnds (relation relation' : Relation) : Prop :=
  relation'.source = relation.source ∧ relation'.target = relation.target

namespace Graph

variable {g : Graph}

/-! ## Stores -/

/-- Put a node in the place of another, which has to be there. -/
def putNode (g : Graph) (id : NodeId) (node : Node) : Graph := g.modifyNode id fun _ => node

/-- Put a relation in the place of another, which has to be there. -/
def putRelation (g : Graph) (r : RelationId) (relation : Relation) : Graph :=
  g.modifyRelation r fun _ => relation

/-- A node lists the relations of the table of which it is the target, and those of which it is the
source. -/
def Lists (g : Graph) (id : NodeId) (node : Node) : Prop := ∀ r,
  (r ∈ node.incoming ↔ ∃ relation, g.relations.get? r = some relation ∧ relation.target = id) ∧
  (r ∈ node.outgoing ↔ ∃ relation, g.relations.get? r = some relation ∧ relation.source = id)

/-- The lists of the nodes are those of the table, and every relation joins two different nodes that
are there. -/
structure InStep (g : Graph) : Prop where
  lists : ∀ id node, g.nodes.get? id = some node → g.Lists id node
  ends_differ : ∀ r relation, g.relations.get? r = some relation →
    relation.source ≠ relation.target
  ends_live : ∀ r relation, g.relations.get? r = some relation →
    ∀ id, relation.Touches id → id ∈ g.nodes.keys

theorem WellFormed.inStep (h : g.WellFormed) : g.InStep where
  lists := fun _ _ hn _ => ⟨h.mem_incoming hn, h.mem_outgoing hn⟩
  ends_differ := fun _ _ hr => h.ends_differ hr
  ends_live := by
    rintro r relation hr id (rfl | rfl)
    · exact h.source_live hr
    · exact h.target_live hr

/-! ## Nodes -/

theorem get?_putNode (g : Graph) (id v : NodeId) (node : Node) :
    (g.putNode id node).nodes.get? v =
      if v = id then (g.nodes.get? v).map fun _ => node else g.nodes.get? v :=
  OrderedMap.get?_modify ..

theorem keys_putNode (g : Graph) (id : NodeId) (node : Node) :
    (g.putNode id node).nodes.keys = g.nodes.keys :=
  OrderedMap.keys_modify ..

theorem WellFormed.inStep_putNode_iff (h : g.WellFormed) {id : NodeId} {node : Node}
    (hn : g.nodes.get? id = some node) (node' : Node) :
    (g.putNode id node').InStep ↔ node.SameLists node' := by
  have hput : (g.putNode id node').nodes.get? id = some node' := by
    rw [get?_putNode, if_pos rfl, hn, Option.map_some]
  have hold := h.inStep.lists id node hn
  constructor
  · intro hstep r
    have hnew := hstep.lists id node' hput r
    exact ⟨hnew.1.trans (hold r).1.symm, hnew.2.trans (hold r).2.symm⟩
  · intro hsame
    refine ⟨fun v p hp => ?_, h.inStep.ends_differ, fun r relation hr v hv => ?_⟩
    · by_cases hv : v = id
      · subst hv
        obtain rfl := Option.some.inj (hput.symm.trans hp)
        exact fun r => ⟨(hsame r).1.trans (hold r).1, (hsame r).2.trans (hold r).2⟩
      · rw [get?_putNode, if_neg hv] at hp
        exact h.inStep.lists v p hp
    · rw [keys_putNode]
      exact h.inStep.ends_live r relation hr v hv

theorem WellFormed.wellFormed_putNode (h : g.WellFormed) {id : NodeId} {node node' : Node}
    (hn : g.nodes.get? id = some node)
    (hsame : node'.incoming = node.incoming ∧ node'.outgoing = node.outgoing) :
    (g.putNode id node').WellFormed := by
  refine wellFormed_modifyNode h fun old hold => ?_
  obtain rfl := Option.some.inj (hn.symm.trans hold)
  exact hsame

/-! ## Relations -/

theorem WellFormed.wellFormed_putRelation (h : g.WellFormed) {r : RelationId}
    {relation relation' : Relation} (hr : g.relations.get? r = some relation)
    (hsame : relation.SameEnds relation') : (g.putRelation r relation').WellFormed := by
  refine wellFormed_modifyRelation h fun old hold => ?_
  obtain rfl := Option.some.inj (hr.symm.trans hold)
  exact hsame

/-- A relation is listed where its ends were when it was created. -/
theorem WellFormed.inStep_putRelation_iff (h : g.WellFormed) {r : RelationId} {relation : Relation}
    (hr : g.relations.get? r = some relation) (relation' : Relation) :
    (g.putRelation r relation').InStep ↔ relation.SameEnds relation' := by
  have hput : (g.putRelation r relation').relations.get? r = some relation' := by
    rw [putRelation, modifyRelation, OrderedMap.get?_modify, if_pos rfl, hr, Option.map_some]
  refine ⟨fun hstep => ⟨?_, ?_⟩, fun hsame => (h.wellFormed_putRelation hr hsame).inStep⟩
  · obtain ⟨node, hn⟩ := OrderedMap.mem_keys_iff.1 (h.source_live hr)
    obtain ⟨relation'', hget, hsource⟩ := (hstep.lists relation.source node hn r).2.1
      ((h.mem_outgoing hn).2 ⟨relation, hr, rfl⟩)
    rwa [Option.some.inj (hput.symm.trans hget)]
  · obtain ⟨node, hn⟩ := OrderedMap.mem_keys_iff.1 (h.target_live hr)
    obtain ⟨relation'', hget, htarget⟩ := (hstep.lists relation.target node hn r).1.1
      ((h.mem_incoming hn).2 ⟨relation, hr, rfl⟩)
    rwa [Option.some.inj (hput.symm.trans hget)]

/-! ## Both -/

/-- **When stores are safe.** Putting a value in the place of a node leaves a graph in step exactly
if both list the same relations, and putting one in the place of a relation exactly if both have the
same ends. Then no later request meets a fault. -/
theorem put_inStep_iff [Pattern.Dialect] (hg : g.Buildable) :
    (∀ id node node', g.nodes.get? id = some node → node'.Obtainable →
      ((g.putNode id node').InStep ↔ node.SameLists node') ∧
      ((g.putNode id node').InStep → ∀ history, ((g.putNode id node').replay history).Faultless)) ∧
    ∀ r relation relation', g.relations.get? r = some relation → relation'.Obtainable →
      ((g.putRelation r relation').InStep ↔ relation.SameEnds relation') ∧
      ((g.putRelation r relation').InStep →
        ∀ history, ((g.putRelation r relation').replay history).Faultless) := by
  have h := hg.wellFormed
  constructor
  · intro id node node' hn hnode'
    have hiff := h.inStep_putNode_iff hn node'
    refine ⟨hiff, fun hstep history => ?_⟩
    have hlists := (hiff.1 hstep).lists_eq (.copied hg hn) hnode'
    exact ((h.wellFormed_putNode hn hlists).replay history).faultless
  · intro r relation relation' hr _
    have hiff := h.inStep_putRelation_iff hr relation'
    refine ⟨hiff, fun hstep history => ?_⟩
    exact ((h.wellFormed_putRelation hr (hiff.1 hstep)).replay history).faultless

/-- The relation of `pair` the other way round, as it is there once it is reversed. -/
def turned : Relation := ⟨⟨1⟩, ⟨0⟩, {}⟩

theorem obtainable_turned : turned.Obtainable :=
  .copied (r := ⟨1⟩) ⟨[.createNode "a", .createNode "b", .createRelation ⟨0⟩ ⟨1⟩ {},
    .reverseRelation ⟨0⟩], rfl⟩ rfl

/-- A copy of a node fits where it came from once it is edited; a new node does not fit there, nor
does a relation in the place of its reverse. -/
theorem put_pair :
    (∀ history,
      ((pair.putNode ⟨1⟩ { pattern := "z", incoming := [⟨0⟩] }).replay history).Faultless) ∧
    ¬ (pair.putNode ⟨1⟩ {}).InStep ∧ ¬ (pair.putRelation ⟨0⟩ turned).InStep := by
  obtain ⟨hnodes, hrelations⟩ := put_inStep_iff buildable_pair
  have hcopy : Node.Obtainable { pattern := "z", incoming := [⟨0⟩] } :=
    .edited (e := .setPattern "z")
      (.copied buildable_pair (show pair.nodes.get? ⟨1⟩ = some _ from rfl)) rfl
  refine ⟨?_, fun hstep => ?_, fun hstep => ?_⟩
  · obtain ⟨hiff, hsafe⟩ := hnodes ⟨1⟩ _ _ rfl hcopy
    exact hsafe (hiff.2 fun r => ⟨Iff.rfl, Iff.rfl⟩)
  · have hsame := (hnodes ⟨1⟩ _ {} rfl (.new matchAny)).1.1 hstep
    exact absurd ((hsame ⟨0⟩).1.2 (List.mem_singleton_self _)) List.not_mem_nil
  · have hsame := (hrelations ⟨0⟩ _ turned rfl obtainable_turned).1.1 hstep
    exact absurd hsame.1 (by decide)

/-- A new node in the place of one with a relation, and a relation in the place of its reverse: the
first leaves a relation that nobody lists and that cannot be deleted any more once the node is
gone, the second a list with a relation of somebody else. -/
theorem put_out_of_step :
    (¬ ∀ g : Graph, g.Buildable → ∀ id node node', g.nodes.get? id = some node →
      node'.Obtainable → (g.putNode id node').InStep) ∧
    (((pair.putNode ⟨1⟩ {}).replay [.deleteNode ⟨1⟩]).perform (.deleteRelation ⟨0⟩)).1 =
      .error (.corrupt (.missingNode ⟨1⟩)) ∧
    (¬ ∀ g : Graph, g.Buildable → ∀ r relation relation', g.relations.get? r = some relation →
      relation'.Obtainable → (g.putRelation r relation').InStep) ∧
    (pair.putRelation ⟨0⟩ turned).compileFrom ⟨0⟩ {} =
      .error (.graph (.corrupt (.foreignRelation ⟨0⟩ ⟨0⟩))) := by
  refine ⟨fun hclaim => ?_, rfl, fun hclaim => ?_, rfl⟩
  · have hstep := hclaim pair buildable_pair ⟨1⟩ _ {} rfl (.new matchAny)
    have hlisted := (hstep.lists ⟨1⟩ {} rfl ⟨0⟩).1.2 ⟨_, rfl, rfl⟩
    exact absurd hlisted List.not_mem_nil
  · have hstep := hclaim pair buildable_pair ⟨0⟩ _ turned rfl obtainable_turned
    obtain ⟨relation, hr, hsource⟩ := (hstep.lists ⟨0⟩ _ rfl ⟨0⟩).2.1 (List.mem_singleton_self _)
    obtain rfl : turned = relation := Option.some.inj hr
    exact absurd hsource (by decide)

end Graph

end TreeQuery
