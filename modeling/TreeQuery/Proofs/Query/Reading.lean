import TreeQuery.Proofs.Except
import TreeQuery.Proofs.Graph.WellFormed
import TreeQuery.Proofs.Query.Expression
import TreeQuery.Query.Compile

set_option autoImplicit false

/-! # What a search writes

`Query.visit` and `Query.clauses` run with a bound on the depth and can fail at every look-up.
`Visits` and `Reads` say what they do when they succeed, without either; everything about compiled
expressions is proved by induction on them. -/

namespace TreeQuery.Query

/-! ## Steps of the search -/

/-- Mark a relation. -/
def Seen.mark (seen : Seen) (r : RelationId) : Seen :=
  { seen with relations := r :: seen.relations }

/-- Mark a node. -/
def Seen.enter (seen : Seen) (id : NodeId) : Seen := { seen with nodes := id :: seen.nodes }

@[simp] theorem Seen.nodes_mark (seen : Seen) (r : RelationId) :
    (seen.mark r).nodes = seen.nodes := rfl

@[simp] theorem Seen.relations_mark (seen : Seen) (r : RelationId) :
    (seen.mark r).relations = r :: seen.relations := rfl

@[simp] theorem Seen.nodes_enter (seen : Seen) (id : NodeId) :
    (seen.enter id).nodes = id :: seen.nodes := rfl

/-- A handle stands for a relation that leads away from a node when it is read in a direction. -/
structure Leads (g : Graph) (id : NodeId) (x : RelationId × Relation.Direction)
    (relation : Relation) : Prop where
  get : g.relations.get? x.1 = some relation
  other : relation.other id = some (relation.far x.2)

variable [Pattern.Dialect]

mutual

/-- Visiting a node, with `seen` met before, gives an expression and leaves more met. -/
inductive Visits (g : Graph) (labels : LabelTable) (groupLabels : Bool) :
    NodeId → Seen → Expr → Seen → Prop
  | back {id : NodeId} {seen : Seen} {label : String} (hlabel : labels.name? id = some label)
      (hold : id ∈ seen.nodes) :
      Visits g labels groupLabels id seen (.backRef id label) seen
  | first {id : NodeId} {seen seen' : Seen} {label : String} {node : Node}
      {cs : List (Clause Expr)} (hlabel : labels.name? id = some label) (hnew : id ∉ seen.nodes)
      (hnode : g.nodes.get? id = some node)
      (hreads : Reads g labels groupLabels id (ends node) (seen.enter id) cs seen') :
      Visits g labels groupLabels id seen
        (.define id node.pattern (shownGroups groupLabels node) label cs) seen'

/-- Reading relations from a node, with `seen` met before, gives clauses and leaves more met. -/
inductive Reads (g : Graph) (labels : LabelTable) (groupLabels : Bool) :
    NodeId → List (RelationId × Relation.Direction) → Seen → List (Clause Expr) → Seen → Prop
  | nil {id : NodeId} {seen : Seen} : Reads g labels groupLabels id [] seen [] seen
  | skip {id : NodeId} {x : RelationId × Relation.Direction}
      {rest : List (RelationId × Relation.Direction)} {seen seen' : Seen} {cs : List (Clause Expr)}
      (hmet : x.1 ∈ seen.relations)
      (hrest : Reads g labels groupLabels id rest seen cs seen') :
      Reads g labels groupLabels id (x :: rest) seen cs seen'
  | read {id : NodeId} {x : RelationId × Relation.Direction}
      {rest : List (RelationId × Relation.Direction)} {seen between seen' : Seen}
      {relation : Relation} {target : Expr} {cs : List (Clause Expr)}
      (hnew : x.1 ∉ seen.relations) (hleads : Leads g id x relation)
      (htarget : Visits g labels groupLabels (relation.far x.2) (seen.mark x.1) target between)
      (hrest : Reads g labels groupLabels id rest between cs seen') :
      Reads g labels groupLabels id (x :: rest) seen (⟨x.1, relation.operator x.2, target⟩ :: cs)
        seen'

end

variable {g : Graph} {labels : LabelTable} {groupLabels : Bool}

/-! ## Successful runs -/

omit [Pattern.Dialect] in
theorem name?_of_require {id : NodeId} {label : String} (h : labels.require id = .ok label) :
    labels.name? id = some label := by
  unfold LabelTable.require at h
  split at h
  · next hl => rw [hl, Except.ok.inj h]
  · exact absurd h (by simp)

theorem reads_of_clauses {visitTarget : NodeId → Seen → Except Graph.Fault (Expr × Seen)}
    (hvisit : ∀ {id seen e seen'}, visitTarget id seen = .ok (e, seen') →
      Visits g labels groupLabels id seen e seen')
    {id : NodeId} {es : List (RelationId × Relation.Direction)} {seen seen' : Seen}
    {cs : List (Clause Expr)} (h : clauses g visitTarget id es seen = .ok (cs, seen')) :
    Reads g labels groupLabels id es seen cs seen' := by
  induction es generalizing seen cs with
  | nil =>
      obtain ⟨rfl, rfl⟩ : [] = cs ∧ seen = seen' := by simpa [clauses] using h
      exact .nil
  | cons x rest ih =>
      obtain ⟨r, dir⟩ := x
      rw [clauses] at h
      split at h
      · next hmet => exact .skip hmet (ih h)
      · next hnew =>
        obtain ⟨relation, hrelation, h⟩ := bind_eq_ok_iff.1 h
        split at h
        · next hother =>
          obtain ⟨⟨target, between⟩, htarget, h⟩ := bind_eq_ok_iff.1 h
          obtain ⟨⟨others, after⟩, hothers, h⟩ := bind_eq_ok_iff.1 h
          obtain ⟨rfl, rfl⟩ := Prod.mk.inj (Except.ok.inj h)
          exact .read hnew ⟨Graph.requireRelation_eq_ok_iff.1 hrelation, hother⟩ (hvisit htarget)
            (ih hothers)
        · exact absurd h (by simp [throw, throwThe, MonadExceptOf.throw])

theorem visits_of_visit {depth : Nat} {id : NodeId} {seen seen' : Seen} {e : Expr}
    (h : visit g labels groupLabels depth id seen = .ok (e, seen')) :
    Visits g labels groupLabels id seen e seen' := by
  induction depth generalizing id seen e seen' with
  | zero => exact absurd h (by simp [visit])
  | succ depth ih =>
      rw [visit] at h
      obtain ⟨label, hlabel, h⟩ := bind_eq_ok_iff.1 h
      have hname := name?_of_require hlabel
      split at h
      · next hold =>
        obtain ⟨rfl, rfl⟩ := Prod.mk.inj (Except.ok.inj h)
        exact .back hname hold
      · next hnew =>
        obtain ⟨node, hnode, h⟩ := bind_eq_ok_iff.1 h
        obtain ⟨⟨cs, after⟩, hclauses, h⟩ := bind_eq_ok_iff.1 h
        obtain ⟨rfl, rfl⟩ := Prod.mk.inj (Except.ok.inj h)
        exact .first hname hnew (Graph.requireNode_eq_ok_iff.1 hnode) (reads_of_clauses ih hclauses)

/-! ## What has been met

The marks of the search are the nodes and the relations of the expression, latest first. -/

theorem Visits.node_eq {id : NodeId} {seen seen' : Seen} {e : Expr}
    (h : Visits g labels groupLabels id seen e seen') : e.node = id := by
  cases h <;> rfl

mutual

theorem Visits.nodes_eq {id : NodeId} {seen seen' : Seen} {e : Expr}
    (h : Visits g labels groupLabels id seen e seen') :
    seen'.nodes = e.nodes.reverse ++ seen.nodes :=
  match h with
  | .back _ _ => rfl
  | .first _ _ _ hreads => by
      rw [hreads.nodes_eq]
      simp [Expr.nodes]

theorem Reads.nodes_eq {id : NodeId} {es : List (RelationId × Relation.Direction)}
    {seen seen' : Seen} {cs : List (Clause Expr)}
    (h : Reads g labels groupLabels id es seen cs seen') :
    seen'.nodes = (Expr.nodesOf cs).reverse ++ seen.nodes :=
  match h with
  | .nil => rfl
  | .skip _ hrest => hrest.nodes_eq
  | .read _ _ htarget hrest => by
      rw [hrest.nodes_eq, htarget.nodes_eq]
      simp [Expr.nodesOf]

end

mutual

theorem Visits.relations_eq {id : NodeId} {seen seen' : Seen} {e : Expr}
    (h : Visits g labels groupLabels id seen e seen') :
    seen'.relations = e.relations.reverse ++ seen.relations :=
  match h with
  | .back _ _ => rfl
  | .first _ _ _ hreads => hreads.relations_eq

theorem Reads.relations_eq {id : NodeId} {es : List (RelationId × Relation.Direction)}
    {seen seen' : Seen} {cs : List (Clause Expr)}
    (h : Reads g labels groupLabels id es seen cs seen') :
    seen'.relations = (Expr.relationsOf cs).reverse ++ seen.relations :=
  match h with
  | .nil => rfl
  | .skip _ hrest => hrest.relations_eq
  | .read _ _ htarget hrest => by
      rw [hrest.relations_eq, htarget.relations_eq]
      simp [Expr.relationsOf]

end

mutual

/-- A node is entered only if it is new. -/
theorem Visits.nodup_nodes {id : NodeId} {seen seen' : Seen} {e : Expr}
    (h : Visits g labels groupLabels id seen e seen') (hseen : seen.nodes.Nodup) :
    seen'.nodes.Nodup :=
  match h with
  | .back _ _ => hseen
  | .first _ hnew _ hreads => hreads.nodup_nodes (List.nodup_cons.2 ⟨hnew, hseen⟩)

theorem Reads.nodup_nodes {id : NodeId} {es : List (RelationId × Relation.Direction)}
    {seen seen' : Seen} {cs : List (Clause Expr)}
    (h : Reads g labels groupLabels id es seen cs seen') (hseen : seen.nodes.Nodup) :
    seen'.nodes.Nodup :=
  match h with
  | .nil => hseen
  | .skip _ hrest => hrest.nodup_nodes hseen
  | .read _ _ htarget hrest => hrest.nodup_nodes (htarget.nodup_nodes hseen)

end

mutual

/-- A relation is read only if it is new. -/
theorem Visits.nodup_relations {id : NodeId} {seen seen' : Seen} {e : Expr}
    (h : Visits g labels groupLabels id seen e seen') (hseen : seen.relations.Nodup) :
    seen'.relations.Nodup :=
  match h with
  | .back _ _ => hseen
  | .first _ _ _ hreads => hreads.nodup_relations hseen

theorem Reads.nodup_relations {id : NodeId} {es : List (RelationId × Relation.Direction)}
    {seen seen' : Seen} {cs : List (Clause Expr)}
    (h : Reads g labels groupLabels id es seen cs seen') (hseen : seen.relations.Nodup) :
    seen'.relations.Nodup :=
  match h with
  | .nil => hseen
  | .skip _ hrest => hrest.nodup_relations hseen
  | .read hnew _ htarget hrest =>
      hrest.nodup_relations (htarget.nodup_relations (List.nodup_cons.2 ⟨hnew, hseen⟩))

end

/-- The first mentions in the expression of a whole search are those of different nodes. -/
theorem Visits.nodup_expr {start : NodeId} {seen : Seen} {e : Expr}
    (h : Visits g labels groupLabels start {} e seen) : e.nodes.Nodup ∧ e.relations.Nodup := by
  have hnodes := h.nodup_nodes List.nodup_nil
  have hrelations := h.nodup_relations List.nodup_nil
  rw [h.nodes_eq, List.append_nil, List.nodup_reverse] at hnodes
  rw [h.relations_eq, List.append_nil, List.nodup_reverse] at hrelations
  exact ⟨hnodes, hrelations⟩

section Reads

variable {id : NodeId} {es : List (RelationId × Relation.Direction)} {seen seen' : Seen}
  {cs : List (Clause Expr)}

theorem Visits.mem_nodes {e : Expr} (h : Visits g labels groupLabels id seen e seen')
    {v : NodeId} (hv : v ∈ seen.nodes) : v ∈ seen'.nodes := by
  rw [h.nodes_eq]
  exact List.mem_append_right _ hv

theorem Visits.mem_relations {e : Expr} (h : Visits g labels groupLabels id seen e seen')
    {r : RelationId} (hr : r ∈ seen.relations) : r ∈ seen'.relations := by
  rw [h.relations_eq]
  exact List.mem_append_right _ hr

theorem Reads.mem_nodes (h : Reads g labels groupLabels id es seen cs seen') {v : NodeId}
    (hv : v ∈ seen.nodes) : v ∈ seen'.nodes := by
  rw [h.nodes_eq]
  exact List.mem_append_right _ hv

theorem Reads.mem_relations (h : Reads g labels groupLabels id es seen cs seen') {r : RelationId}
    (hr : r ∈ seen.relations) : r ∈ seen'.relations := by
  rw [h.relations_eq]
  exact List.mem_append_right _ hr

/-- All relations that were to be read have been met at the end, now or before. -/
theorem Reads.met (h : Reads g labels groupLabels id es seen cs seen') :
    ∀ x ∈ es, x.1 ∈ seen'.relations := by
  induction es generalizing seen cs with
  | nil => exact fun _ hx => absurd hx (List.not_mem_nil)
  | cons x rest ih =>
      intro y hy
      cases h with
      | skip hmet hrest =>
          rcases List.mem_cons.1 hy with rfl | hy
          · exact hrest.mem_relations hmet
          · exact ih hrest y hy
      | read hnew hleads htarget hrest =>
          rcases List.mem_cons.1 hy with rfl | hy
          · exact hrest.mem_relations (htarget.mem_relations (List.mem_cons_self ..))
          · exact ih hrest y hy

/-- The clauses stand in the order in which the relations were to be read. -/
theorem Reads.sublist (h : Reads g labels groupLabels id es seen cs seen') :
    (cs.map Clause.relation).Sublist (es.map Prod.fst) := by
  induction es generalizing seen cs with
  | nil =>
      cases h
      exact List.Sublist.slnil
  | cons x rest ih =>
      cases h with
      | skip hmet hrest => exact (ih hrest).cons _
      | read hnew hleads htarget hrest => exact (ih hrest).cons_cons _

end Reads

/-! ## Compiled expressions -/

/-- What a compilation that succeeds has done. -/
theorem eq_of_compileFrom {start : NodeId} {config : Config} {c : Compiled}
    (h : g.compileFrom start config = .ok c) :
    ∃ e seen, traverse g (.assign g config.labelStem) config.groupLabels start = .ok (e, seen) ∧
      c = ⟨some e, e.text, .assign g config.labelStem,
        g.diagnose config (.assign g config.labelStem) seen.nodes, config.palette⟩ := by
  rw [Graph.compileFrom] at h
  split at h
  · dsimp only at h
    split at h
    · exact absurd h (by simp)
    · next e seen htraverse =>
      split at h
      · exact absurd h (by simp)
      · exact ⟨e, seen, htraverse, (Except.ok.inj h).symm⟩
  · exact absurd h (by simp)

theorem visits_of_compileFrom {start : NodeId} {config : Config} {c : Compiled}
    (h : g.compileFrom start config = .ok c) :
    ∃ e seen, c.expr = some e ∧
      Visits g (.assign g config.labelStem) config.groupLabels start {} e seen := by
  obtain ⟨e, seen, htraverse, rfl⟩ := eq_of_compileFrom h
  exact ⟨e, seen, rfl, visits_of_visit htraverse⟩

theorem labels_of_compileFrom {start : NodeId} {config : Config} {c : Compiled}
    (h : g.compileFrom start config = .ok c) : c.labels = .assign g config.labelStem := by
  obtain ⟨e, seen, -, rfl⟩ := eq_of_compileFrom h
  rfl

theorem text_of_compileFrom {start : NodeId} {config : Config} {c : Compiled} {e : Expr}
    (h : g.compileFrom start config = .ok c) (he : c.expr = some e) : c.text = e.text := by
  obtain ⟨e', seen, -, rfl⟩ := eq_of_compileFrom h
  rw [← Option.some.inj he]

end TreeQuery.Query
