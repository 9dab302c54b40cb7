import TreeQuery.Proofs.Graph.WellFormed
import TreeQuery.Proofs.Relation.Operator
import TreeQuery.Query.Compile

set_option autoImplicit false

/-! # Graphs that look alike

Two graphs look alike if they have the same nodes, relations and head up to what is never shown: the
numbers of the next handles, and arguments of descriptors that their kinds do not use. What the
lists of the nodes are follows from the relations (`Alike.nodes_eq`), so the search cannot tell the
two graphs apart (`Alike.visit_eq`), and neither can a compilation (`Alike.compile_eq`). -/

namespace TreeQuery

/-- Two nodes have the same pattern, the same label and the same names for their groups. -/
structure Node.SameTexts (node node' : Node) : Prop where
  pattern : node.pattern = node'.pattern
  label : node.label = node'.label
  groupLabels : node.groupLabels = node'.groupLabels

theorem Node.SameTexts.eq {node node' : Node} (h : node.SameTexts node')
    (hincoming : node.incoming = node'.incoming) (houtgoing : node.outgoing = node'.outgoing) :
    node = node' := by
  cases node
  cases node'
  rw [Node.mk.injEq]
  exact ⟨h.pattern, h.label, h.groupLabels, hincoming, houtgoing⟩

/-- Two relations have the same ends, and descriptors that mean the same. -/
structure Relation.Agrees (relation relation' : Relation) : Prop where
  source : relation.source = relation'.source
  target : relation.target = relation'.target
  descriptor : relation.descriptor.Agrees relation'.descriptor

namespace Relation.Agrees

variable {relation relation' : Relation}

theorem far_eq (h : relation.Agrees relation') (dir : Direction) :
    relation.far dir = relation'.far dir := by
  cases dir with
  | forward => exact h.target
  | backward => exact h.source

theorem other_eq (h : relation.Agrees relation') (id : NodeId) :
    relation.other id = relation'.other id := by
  rw [other, other, h.source, h.target]

theorem operator_eq (h : relation.Agrees relation') (dir : Direction) :
    relation.operator dir = relation'.operator dir :=
  h.descriptor.operator_eq dir

end Relation.Agrees

namespace Graph

/-- Two graphs have the same nodes and relations in the same order and the same head, up to what is
never shown. -/
structure Alike (g g' : Graph) : Prop where
  node_ids : g.nodes.keys = g'.nodes.keys
  head : g.head = g'.head
  node : ∀ {id node node'}, g.nodes.get? id = some node → g'.nodes.get? id = some node' →
    node.SameTexts node'
  relation_ids : g.relations.keys = g'.relations.keys
  relation : ∀ {r relation relation'}, g.relations.get? r = some relation →
    g'.relations.get? r = some relation' → relation.Agrees relation'

namespace Alike

variable {g g' : Graph}

/-! ## Nodes -/

theorem relationsWhere_eq (h : g.Alike g') {p : Relation → Bool}
    (hp : ∀ {relation relation'}, relation.Agrees relation' → p relation = p relation') :
    g.relationsWhere p = g'.relationsWhere p := by
  rw [relationsWhere, relationsWhere, OrderedMap.map_fst_filter_entries,
    OrderedMap.map_fst_filter_entries, ← h.relation_ids]
  refine List.filter_congr fun r hr => ?_
  obtain ⟨relation, hget⟩ := OrderedMap.mem_keys_iff.1 hr
  obtain ⟨relation', hget'⟩ := OrderedMap.mem_keys_iff.1 (h.relation_ids ▸ hr)
  rw [hget, hget', Option.any_some, Option.any_some, hp (h.relation hget hget')]

/-- The lists of the nodes are decided by the relations, so the nodes are the same as a whole. -/
theorem nodes_eq (h : g.Alike g') (hg : g.WellFormed) (hg' : g'.WellFormed) :
    g.nodes = g'.nodes := by
  have hentries := (OrderedMap.map_entries_eq_iff (f := Prod.mk) (u := Prod.mk)
    fun heq => (Prod.mk.inj heq).1).2 ⟨h.node_ids, fun {id node node'} hn hn' => ?_⟩
  · simpa [OrderedMap.ext_iff] using hentries
  · have hincoming : node.incoming = node'.incoming := by
      rw [hg.incoming_eq hn, hg'.incoming_eq hn']
      exact h.relationsWhere_eq fun hagrees => by rw [hagrees.target]
    have houtgoing : node.outgoing = node'.outgoing := by
      rw [hg.outgoing_eq hn, hg'.outgoing_eq hn']
      exact h.relationsWhere_eq fun hagrees => by rw [hagrees.source]
    rw [(h.node hn hn').eq hincoming houtgoing]

/-! ## Searching -/

/-- Both graphs have a relation, or none of them has. -/
theorem requireRelation (h : g.Alike g') (r : RelationId) :
    (∃ fault, g.requireRelation r = .error fault ∧ g'.requireRelation r = .error fault) ∨
      ∃ relation relation', g.requireRelation r = .ok relation ∧
        g'.requireRelation r = .ok relation' ∧ relation.Agrees relation' := by
  rw [Graph.requireRelation, Graph.requireRelation]
  have hkeys : r ∈ g.relations.keys ↔ r ∈ g'.relations.keys := by rw [h.relation_ids]
  cases hget : g.relations.get? r with
  | none =>
      rw [OrderedMap.get?_eq_none_iff, hkeys, ← OrderedMap.get?_eq_none_iff] at hget
      exact .inl ⟨_, rfl, by rw [hget]⟩
  | some relation =>
      obtain ⟨relation', hget'⟩ := OrderedMap.mem_keys_iff.1
        (hkeys.1 (OrderedMap.mem_keys_iff.2 ⟨relation, hget⟩))
      exact .inr ⟨relation, relation', rfl, by rw [hget'], h.relation hget hget'⟩

open Query

theorem clauses_eq (h : g.Alike g') (visitTarget : NodeId → Seen → Except Fault (Expr × Seen))
    (id : NodeId) (es : List (RelationId × Relation.Direction)) (seen : Seen) :
    clauses g visitTarget id es seen = clauses g' visitTarget id es seen := by
  induction es generalizing seen with
  | nil => rfl
  | cons x es ih =>
      obtain ⟨r, dir⟩ := x
      rw [clauses, clauses]
      split
      · exact ih seen
      · obtain ⟨fault, hget, hget'⟩ | ⟨relation, relation', hget, hget', hagrees⟩ :=
          h.requireRelation r
        · rw [hget, hget']
          rfl
        · rw [hget, hget']
          simp only [bind, Except.bind, hagrees.far_eq, hagrees.other_eq, hagrees.operator_eq, ih]

variable [Pattern.Dialect]

theorem visit_eq (h : g.Alike g') (hnodes : g.nodes = g'.nodes) (labels : LabelTable)
    (groupLabels : Bool) (depth : Nat) :
    visit g labels groupLabels depth = visit g' labels groupLabels depth := by
  induction depth with
  | zero => rfl
  | succ depth ih =>
      funext id seen
      simp only [visit, ih, requireNode, hnodes, h.clauses_eq]

/-! ## Compiling -/

/-- **Graphs that look alike have the same queries.** -/
theorem compileFrom_eq (h : g.Alike g') (hg : g.WellFormed) (hg' : g'.WellFormed) (start : NodeId)
    (config : Config) : g.compileFrom start config = g'.compileFrom start config := by
  have hnodes := h.nodes_eq hg hg'
  have hlabels : LabelTable.assign g config.labelStem = .assign g' config.labelStem := by
    simp only [LabelTable.assign, LabelTable.userLabels, hnodes]
  have htraverse (labels : LabelTable) (groupLabels : Bool) :
      Query.traverse g labels groupLabels start = Query.traverse g' labels groupLabels start := by
    rw [Query.traverse, Query.traverse, hnodes, h.visit_eq hnodes]
  have hdiagnose (labels : LabelTable) (reached : List NodeId) :
      g.diagnose config labels reached = g'.diagnose config labels reached := by
    simp only [diagnose, checkGroupLabels, checkReached, hnodes]
  simp only [compileFrom, hnodes, hlabels, htraverse, hdiagnose]

theorem compile_eq (h : g.Alike g') (hg : g.WellFormed) (hg' : g'.WellFormed) (config : Config) :
    g.compile config = g'.compile config := by
  simp only [compile, h.head, h.compileFrom_eq hg hg']

end Alike

end Graph

end TreeQuery
