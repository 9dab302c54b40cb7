import TreeQuery.Proofs.Query.Discovery

set_option autoImplicit false

/-! # Every relation is written once

At the end of a search no node is on the way any more, so every node that has been met is finished:
the relations that have been met are those with an end among the nodes that have been met. Each was
written once, at the end that was visited first, and from there it leads to the other end. The
number of references back follows: every mention but the first is the target of a clause. -/

namespace TreeQuery

/-- The relations with an end among some nodes, oldest first. -/
def Graph.relationsAt (g : Graph) (nodes : List NodeId) : List RelationId :=
  g.relationsWhere fun relation => relation.source ∈ nodes ∨ relation.target ∈ nodes

theorem Graph.mem_relationsAt {g : Graph} {nodes : List NodeId} {r : RelationId} :
    r ∈ g.relationsAt nodes ↔ ∃ relation, g.relations.get? r = some relation ∧
      ∃ v ∈ nodes, relation.Touches v := by
  simp only [relationsAt, mem_relationsWhere, decide_eq_true_eq]
  constructor
  · rintro ⟨relation, hget, hs | ht⟩
    · exact ⟨relation, hget, relation.source, hs, .inl rfl⟩
    · exact ⟨relation, hget, relation.target, ht, .inr rfl⟩
  · rintro ⟨relation, hget, v, hv, rfl | rfl⟩
    · exact ⟨relation, hget, .inl hv⟩
    · exact ⟨relation, hget, .inr hv⟩

/-- A clause says what its relation is when it is read from the node that owns the clause: it leads
to the other end, and the operator is read forward from the source. -/
def Clause.Renders (g : Graph) (u : NodeId) (c : Clause Expr) : Prop :=
  ∃ relation, g.relations.get? c.relation = some relation ∧
    relation.other u = some c.target.node ∧
    c.operator = relation.descriptor.operator (if u = relation.source then .forward else .backward)

/-- An expression writes the part of a graph that consists of some nodes and their relations. -/
structure Expr.Renders (g : Graph) (nodes : List NodeId) (e : Expr) : Prop where
  nodup_relations : e.relations.Nodup
  mem_relations_iff : ∀ r, r ∈ e.relations ↔ r ∈ g.relationsAt nodes
  /-- The clauses of a node follow its relations, first the outgoing ones, then the incoming. -/
  clauses : ∀ place u pattern groups label cs,
    e.at? place = some (.define u pattern groups label cs) →
      (∀ c ∈ cs, c.Renders g u) ∧ ∃ node, g.nodes.get? u = some node ∧
        (cs.map Clause.relation).Sublist (node.outgoing ++ node.incoming)
  length_definitions : e.definitions.length = nodes.length
  clauseCount_eq : e.clauseCount = (g.relationsAt nodes).length
  /-- As many relations as are not needed to reach the nodes lead back. -/
  length_backReferences :
    e.backReferences.length + nodes.length = (g.relationsAt nodes).length + 1

namespace Query

section

variable [Pattern.Dialect] {g : Graph} {labels : LabelTable} {groupLabels : Bool}

/-- All nodes are finished when the search has come back to the node from which it began. -/
theorem Visits.finished_of_mem (hg : g.WellFormed) {start : NodeId} {seen : Seen} {e : Expr}
    (h : Visits g labels groupLabels start {} e seen) {v : NodeId} (hv : v ∈ seen.nodes) :
    Finished g seen v := by
  rcases (h.open hg (.start g start)).finished v hv with hstart | hfinished
  · obtain rfl := List.mem_singleton.1 hstart
    exact (h.finished hg).resolve_left List.not_mem_nil
  · exact hfinished

theorem Visits.mem_relations_iff (hg : g.WellFormed) {start : NodeId} {seen : Seen} {e : Expr}
    (h : Visits g labels groupLabels start {} e seen) {r : RelationId} :
    r ∈ e.relations ↔ r ∈ g.relationsAt e.nodes := by
  have hrelations : r ∈ e.relations ↔ r ∈ seen.relations := by simp [h.relations_eq]
  have hnodes (v : NodeId) : v ∈ e.nodes ↔ v ∈ seen.nodes := by simp [h.nodes_eq]
  rw [hrelations, Graph.mem_relationsAt]
  constructor
  · intro hr
    obtain ⟨relation, hget, hends⟩ := (h.open hg (.start g start)).ends_met r hr
    exact ⟨relation, hget, relation.source, (hnodes _).2 (hends _ (.inl rfl)), .inl rfl⟩
  · rintro ⟨relation, hget, v, hv, ht⟩
    exact h.finished_of_mem hg ((hnodes v).1 hv) r relation hget ht

theorem Reads.renders (hg : g.WellFormed) {path : List NodeId} {id : NodeId}
    {es : List (RelationId × Relation.Direction)} {seen seen' : Seen} {cs : List (Clause Expr)}
    (h : Reads g labels groupLabels id es seen cs seen') (ho : Open g path id seen) :
    ∀ c ∈ cs, c.Renders g id := by
  intro c hc
  obtain ⟨dir, relation, _, _, _, -, hleads, hoperator, htarget⟩ := h.clause hg ho hc
  have hdir : dir = if id = relation.source then .forward else .backward := hleads.direction_eq hg
  refine ⟨relation, hleads.get, ?_, ?_⟩
  · rw [htarget.node_eq]
    exact hleads.other
  · rw [hoperator, ← hdir]
    rfl

theorem Visits.renders (hg : g.WellFormed) {start : NodeId} {seen : Seen} {e : Expr}
    (h : Visits g labels groupLabels start {} e seen) : e.Renders g e.nodes := by
  obtain ⟨hnodes, hrelations⟩ := h.nodup_expr
  have hperm : e.relations.Perm (g.relationsAt e.nodes) :=
    (List.perm_ext_iff_of_nodup hrelations (g.nodup_relationsWhere _)).2 fun r =>
      h.mem_relations_iff hg
  have hcount : e.clauseCount = (g.relationsAt e.nodes).length := by
    rw [e.clauseCount_eq, hperm.length_eq]
  refine ⟨hrelations, fun r => h.mem_relations_iff hg, ?_, e.length_definitions, hcount, ?_⟩
  · intro place u pattern groups label cs hu
    obtain ⟨way, id, before, after, hvisits, hopen, -⟩ := h.at_place hg (.start g start) hu
    cases hvisits with
    | first hlabel hnew hnode hreads =>
        have hsub := hreads.sublist
        rw [map_fst_ends] at hsub
        exact ⟨hreads.renders hg hopen, _, hnode, hsub⟩
  · -- First mentions and references back together are the root and the targets.
    have hmentions := e.length_mentions
    rw [e.length_definitions, hcount] at hmentions
    omega

/-- A compiled expression writes the part of the graph that can be reached. -/
theorem renders_of_compileFrom {start : NodeId} {config : Config} {c : Compiled} (hg : g.Buildable)
    (hc : g.compileFrom start config = .ok c) :
    ∃ e nodes, c.expr = some e ∧ g.reachable start = .ok nodes ∧ nodes.Nodup ∧
      e.Renders g nodes := by
  obtain ⟨e, seen, he, hvisits⟩ := visits_of_compileFrom hc
  exact ⟨e, e.nodes, he, hvisits.reachable_eq hg.wellFormed, hvisits.nodup_expr.1,
    hvisits.renders hg.wellFormed⟩

end

/-- From `3` on, the parallel relation `5` is read backward, before the search is back at `0`. -/
theorem renders_knot : ∃ c e nodes, knot.compileFrom ⟨3⟩ {} = .ok c ∧ c.expr = some e ∧
    knot.reachable ⟨3⟩ = .ok nodes ∧ nodes.Nodup ∧ e.Renders knot nodes ∧
    e.relations = [⟨3⟩, ⟨4⟩, ⟨0⟩, ⟨2⟩, ⟨5⟩, ⟨1⟩] := by
  obtain ⟨c, hc⟩ : ∃ c, knot.compileFrom ⟨3⟩ {} = .ok c := ⟨_, rfl⟩
  obtain ⟨e, nodes, he, hreachable, hnodup, hrenders⟩ := renders_of_compileFrom buildable_knot hc
  have hrelations : e.relations = [⟨3⟩, ⟨4⟩, ⟨0⟩, ⟨2⟩, ⟨5⟩, ⟨1⟩] :=
    eq_of_compileFrom_map hc he rfl
  exact ⟨c, e, nodes, hc, he, hreachable, hnodup, hrenders, hrelations⟩

end Query

end TreeQuery
