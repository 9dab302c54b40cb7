import Mathlib.Data.List.Basic
import TreeQuery.Proofs.Graph.Component
import TreeQuery.Proofs.Query.Search

set_option autoImplicit false

/-! # Mirrored searches

A search only looks at what is joined to the node from which it begins. If that part of a graph is
found in another graph, up to a `Rewriting` of handles, groups and labels (`Query.Mirrors`), then
the search goes the same way there and writes the rewritten expression (`Visits.mirror`). And a
search has only one result (`Visits.unique`), so this is what a compilation of the other graph
gives (`Mirrors.expr_eq`). -/

namespace TreeQuery

/-- How the same is written differently: with other handles, other groups or other labels. -/
structure Rewriting where
  node : NodeId → NodeId := id
  relation : RelationId → RelationId := id
  groups : List (Nat × String) → List (Nat × String) := id
  label : NodeId → String → String := fun _ label => label

/-! ## Rewriting -/

mutual

/-- An expression written differently; its shape, its patterns and its operators stay. -/
def Expr.rewrite (w : Rewriting) : Expr → Expr
  | backRef node label => backRef (w.node node) (w.label node label)
  | define node pattern groups label clauses =>
    define (w.node node) pattern (w.groups groups) (w.label node label) (rewriteOf w clauses)

/-- Clauses written differently. -/
def Expr.rewriteOf (w : Rewriting) : List (Clause Expr) → List (Clause Expr)
  | [] => []
  | ⟨relation, operator, target⟩ :: rest =>
    ⟨w.relation relation, operator, rewrite w target⟩ :: rewriteOf w rest

end

mutual

@[simp] theorem Expr.rewrite_default : (e : Expr) → e.rewrite {} = e
  | .backRef _ _ => rfl
  | .define _ _ _ _ clauses => by
      rw [rewrite, rewriteOf_default clauses]
      rfl

@[simp] theorem Expr.rewriteOf_default : (cs : List (Clause Expr)) → rewriteOf {} cs = cs
  | [] => rfl
  | ⟨_, _, target⟩ :: rest => by
      rw [rewriteOf, rewrite_default target, rewriteOf_default rest]
      rfl

end

/-- A relation with its ends renamed. -/
def Relation.rename (f : NodeId → NodeId) (r : Relation) : Relation :=
  ⟨f r.source, f r.target, r.descriptor⟩

@[simp] theorem Relation.far_rename (f : NodeId → NodeId) (r : Relation) (dir : Direction) :
    (r.rename f).far dir = f (r.far dir) := by
  cases dir <;> rfl

@[simp] theorem Relation.operator_rename (f : NodeId → NodeId) (r : Relation) (dir : Direction) :
    (r.rename f).operator dir = r.operator dir := rfl

theorem Relation.other_rename {f : NodeId → NodeId} (hf : Function.Injective f) (r : Relation)
    (id : NodeId) : (r.rename f).other (f id) = (r.other id).map f := by
  simp only [other, rename, hf.eq_iff]
  split
  · rfl
  · split <;> rfl

namespace Query

/-- What has been met, with the handles renamed. -/
def Seen.rewrite (w : Rewriting) (seen : Seen) : Seen :=
  ⟨seen.nodes.map w.node, seen.relations.map w.relation⟩

/-! ## Mirrors -/

section Mirror

variable [Pattern.Dialect] {w : Rewriting} {g g' : Graph} {labels labels' : LabelTable}
  {groupLabels groupLabels' : Bool} {start : NodeId}

/-- What a search from a node can look at in one graph is found in another graph when it is written
differently. -/
structure Mirrors (w : Rewriting) (g : Graph) (labels : LabelTable) (groupLabels : Bool)
    (g' : Graph) (labels' : LabelTable) (groupLabels' : Bool) (start : NodeId) : Prop where
  node_injective : Function.Injective w.node
  relation_injective : Function.Injective w.relation
  nodes : ∀ {v node}, g.Joined start v → g.nodes.get? v = some node →
    ∃ node', g'.nodes.get? (w.node v) = some node' ∧ node'.pattern = node.pattern ∧
      ends node' = (ends node).map (fun x => (w.relation x.1, x.2)) ∧
      shownGroups groupLabels' node' = w.groups (shownGroups groupLabels node)
  relations : ∀ {v r relation}, g.Joined start v → g.relations.get? r = some relation →
    relation.Touches v → g'.relations.get? (w.relation r) = some (relation.rename w.node)
  labels : ∀ {v name}, g.Joined start v → labels.name? v = some name →
    labels'.name? (w.node v) = some (w.label v name)

theorem Mirrors.leads (h : Mirrors w g labels groupLabels g' labels' groupLabels' start)
    {id : NodeId} {x : RelationId × Relation.Direction} {relation : Relation}
    (hid : g.Joined start id) (hleads : Leads g id x relation) :
    Leads g' (w.node id) (w.relation x.1, x.2) (relation.rename w.node) where
  get := h.relations hid hleads.get (hleads.touches_iff.2 (.inl rfl))
  other := by
    rw [Relation.other_rename h.node_injective, hleads.other, Relation.far_rename, Option.map_some]

mutual

theorem Visits.mirror {id : NodeId} {seen seen' : Seen} {e : Expr}
    (h : Visits g labels groupLabels id seen e seen')
    (hm : Mirrors w g labels groupLabels g' labels' groupLabels' start)
    (hid : g.Joined start id) :
    Visits g' labels' groupLabels' (w.node id) (seen.rewrite w) (e.rewrite w) (seen'.rewrite w) :=
  match h with
  | .back hlabel hold =>
      .back (hm.labels hid hlabel) ((List.mem_map_of_injective hm.node_injective).2 hold)
  | .first hlabel hnew hnode hreads => by
      obtain ⟨node', hnode', hpattern, hends, hgroups⟩ := hm.nodes hid hnode
      rw [Expr.rewrite, ← hpattern, ← hgroups]
      refine .first (hm.labels hid hlabel)
        (fun hold => hnew ((List.mem_map_of_injective hm.node_injective).1 hold)) hnode' ?_
      rw [hends]
      exact hreads.mirror hm hid

/-- Relations that are met are met in the mirror, and those that are read lead to nodes that are
joined as well. -/
theorem Reads.mirror {id : NodeId} {es : List (RelationId × Relation.Direction)}
    {seen seen' : Seen} {cs : List (Clause Expr)}
    (h : Reads g labels groupLabels id es seen cs seen')
    (hm : Mirrors w g labels groupLabels g' labels' groupLabels' start)
    (hid : g.Joined start id) :
    Reads g' labels' groupLabels' (w.node id) (es.map fun x => (w.relation x.1, x.2))
      (seen.rewrite w) (Expr.rewriteOf w cs) (seen'.rewrite w) :=
  match h with
  | .nil => .nil
  | .skip hmet hrest =>
      .skip ((List.mem_map_of_injective hm.relation_injective).2 hmet) (hrest.mirror hm hid)
  | .read hnew hleads htarget hrest => by
      have htarget' := htarget.mirror hm (hid.step hleads.get hleads.other)
      rw [← Relation.far_rename w.node] at htarget'
      rw [Expr.rewriteOf, ← Relation.operator_rename w.node, List.map_cons]
      exact .read (fun hmet => hnew ((List.mem_map_of_injective hm.relation_injective).1 hmet))
        (hm.leads hid hleads) htarget' (hrest.mirror hm hid)

end

end Mirror

/-! ## Results are unique -/

section Unique

variable [Pattern.Dialect] {g : Graph} {labels : LabelTable} {groupLabels : Bool}

mutual

theorem Visits.unique {id : NodeId} {seen after after' : Seen} {e e' : Expr}
    (h : Visits g labels groupLabels id seen e after)
    (h' : Visits g labels groupLabels id seen e' after') : e = e' ∧ after = after' :=
  match h, h' with
  | .back hlabel _, .back hlabel' _ => by
      rw [Option.some.inj (hlabel.symm.trans hlabel')]
      exact ⟨rfl, rfl⟩
  | .back _ hold, .first _ hnew _ _ => absurd hold hnew
  | .first _ hnew _ _, .back _ hold => absurd hold hnew
  | .first hlabel _ hnode hreads, .first hlabel' _ hnode' hreads' => by
      obtain rfl := Option.some.inj (hlabel.symm.trans hlabel')
      obtain rfl := Option.some.inj (hnode.symm.trans hnode')
      obtain ⟨rfl, rfl⟩ := hreads.unique hreads'
      exact ⟨rfl, rfl⟩

theorem Reads.unique {id : NodeId} {es : List (RelationId × Relation.Direction)}
    {seen after after' : Seen} {cs cs' : List (Clause Expr)}
    (h : Reads g labels groupLabels id es seen cs after)
    (h' : Reads g labels groupLabels id es seen cs' after') : cs = cs' ∧ after = after' :=
  match h, h' with
  | .nil, .nil => ⟨rfl, rfl⟩
  | .skip _ hrest, .skip _ hrest' => hrest.unique hrest'
  | .skip hmet _, .read hnew _ _ _ => absurd hmet hnew
  | .read hnew _ _ _, .skip hmet _ => absurd hmet hnew
  | .read _ hleads htarget hrest, .read _ hleads' htarget' hrest' => by
      obtain rfl := Option.some.inj (hleads.get.symm.trans hleads'.get)
      obtain ⟨rfl, rfl⟩ := htarget.unique htarget'
      obtain ⟨rfl, rfl⟩ := hrest.unique hrest'
      exact ⟨rfl, rfl⟩

end

end Unique

/-- A compilation of the mirror gives the expression that is written differently. -/
theorem Mirrors.expr_eq [Pattern.Dialect] {w : Rewriting} {g g' : Graph} {config config' : Config}
    {start : NodeId} (h : Mirrors w g (.assign g config.labelStem) config.groupLabels g'
      (.assign g' config'.labelStem) config'.groupLabels start)
    {c c' : Compiled} (hc : g.compileFrom start config = .ok c)
    (hc' : g'.compileFrom (w.node start) config' = .ok c') :
    ∃ e, c.expr = some e ∧ c'.expr = some (e.rewrite w) := by
  obtain ⟨e, seen, he, hvisits⟩ := visits_of_compileFrom hc
  obtain ⟨e', seen', he', hvisits'⟩ := visits_of_compileFrom hc'
  obtain ⟨rfl, -⟩ := (hvisits.mirror h (.refl g start)).unique hvisits'
  exact ⟨e, he, he'⟩

end Query

end TreeQuery
