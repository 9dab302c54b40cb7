import TreeQuery.Graph.Connectivity
import TreeQuery.Proofs.LabelTable
import TreeQuery.Proofs.Query.Search

set_option autoImplicit false

/-! # The search does not fail

Every look-up of a search in a well-formed graph finds something: the lists of a node name relations
of the table, their ends are there, and the label table covers all nodes. The bound on the depth is
never met either, since every node that is entered leaves fewer nodes unseen, and what is seen stays
seen. So a traversal from a live node ends with an expression (`exists_traverse`). -/

namespace TreeQuery

namespace Graph

theorem length_unseen_le {g : Graph} {seen seen' : List NodeId} (h : seen ⊆ seen') :
    (g.unseen seen').length ≤ (g.unseen seen).length := by
  have hsub : g.unseen seen' = (g.unseen seen).filter (· ∉ seen') := by
    rw [unseen, unseen, List.filter_filter]
    refine List.filter_congr fun id _ => ?_
    by_cases hid : id ∈ seen'
    · simp [hid]
    · have hold : id ∉ seen := fun hm => hid (h hm)
      simp [hid, hold]
  rw [hsub]
  exact List.length_filter_le _ _

theorem length_unseen_cons_lt {g : Graph} {seen : List NodeId} {id : NodeId}
    (hid : id ∈ g.nodes.keys) (hseen : id ∉ seen) :
    (g.unseen (id :: seen)).length < (g.unseen seen).length := by
  have hsub : seen ++ [id] ⊆ id :: seen := by simp
  exact Nat.lt_of_le_of_lt (length_unseen_le hsub) (length_unseen_lt hid hseen)

end Graph

namespace Query

variable {g : Graph} {labels : LabelTable} {groupLabels : Bool}

/-- A relation leads to a node that is there. -/
theorem Leads.far_live (hg : g.WellFormed) {id : NodeId} {x : RelationId × Relation.Direction}
    {relation : Relation} (h : Leads g id x relation) : relation.far x.2 ∈ g.nodes.keys := by
  cases x.2 with
  | forward => exact hg.target_live h.get
  | backward => exact hg.source_live h.get

/-- Reading relations does not fail if visiting their targets does not, whatever is kept on the way
about the nodes that have been met. -/
theorem exists_clauses (hg : g.WellFormed) (met : List NodeId → Prop)
    {visitTarget : NodeId → Seen → Except Graph.Fault (Expr × Seen)}
    (hvisit : ∀ id ∈ g.nodes.keys, ∀ seen : Seen, met seen.nodes →
      ∃ e seen', visitTarget id seen = .ok (e, seen') ∧ met seen'.nodes)
    {id : NodeId} {es : List (RelationId × Relation.Direction)}
    (hes : ∀ x ∈ es, ∃ relation, Leads g id x relation) (seen : Seen) (hmet : met seen.nodes) :
    ∃ cs seen', clauses g visitTarget id es seen = .ok (cs, seen') := by
  induction es generalizing seen with
  | nil => exact ⟨[], seen, rfl⟩
  | cons x rest ih =>
      obtain ⟨r, dir⟩ := x
      have hrest := fun y hy => hes y (List.mem_cons_of_mem _ hy)
      rw [clauses]
      split
      · exact ih hrest seen hmet
      · obtain ⟨relation, hleads⟩ := hes (r, dir) (List.mem_cons_self ..)
        have hrelation := Graph.requireRelation_eq_ok_iff.2 hleads.get
        obtain ⟨target, between, htarget, hbetween⟩ := hvisit (relation.far dir)
          (hleads.far_live hg) { seen with relations := r :: seen.relations } hmet
        obtain ⟨cs, seen', hcs⟩ := ih hrest between hbetween
        refine ⟨⟨r, relation.operator dir, target⟩ :: cs, seen', ?_⟩
        simp [hrelation, hleads.other, htarget, hcs, bind, Except.bind, pure, Except.pure]

theorem exists_visit [Pattern.Dialect] (hg : g.WellFormed)
    (hlabels : ∀ id ∈ g.nodes.keys, ∃ name, labels.name? id = some name) {depth : Nat} {id : NodeId}
    (hid : id ∈ g.nodes.keys) {seen : Seen} (hdepth : (g.unseen seen.nodes).length < depth) :
    ∃ e seen', visit g labels groupLabels depth id seen = .ok (e, seen') := by
  induction depth generalizing id seen with
  | zero => exact absurd hdepth (Nat.not_lt_zero _)
  | succ depth ih =>
      obtain ⟨label, hlabel⟩ := hlabels id hid
      obtain ⟨node, hn⟩ := OrderedMap.mem_keys_iff.1 hid
      have hrequire : labels.require id = .ok label := by rw [LabelTable.require, hlabel]
      have hnode := Graph.requireNode_eq_ok_iff.2 hn
      rw [visit]
      by_cases hold : id ∈ seen.nodes
      · exact ⟨.backRef id label, seen,
          by simp [hrequire, hold, bind, Except.bind, pure, Except.pure]⟩
      · -- The node is seen from now on, so one node less is unseen.
        have hfewer : (g.unseen (id :: seen.nodes)).length < depth :=
          Nat.lt_of_lt_of_le (Graph.length_unseen_cons_lt hid hold) (Nat.le_of_lt_succ hdepth)
        have htargets : ∀ v ∈ g.nodes.keys, ∀ before : Seen,
            (g.unseen before.nodes).length < depth → ∃ e after,
              visit g labels groupLabels depth v before = .ok (e, after) ∧
                (g.unseen after.nodes).length < depth := by
          intro v hv before hbefore
          obtain ⟨e, after, hvisit⟩ := ih hv hbefore
          have hsub : before.nodes ⊆ after.nodes := fun u hu =>
            (visits_of_visit hvisit).mem_nodes hu
          exact ⟨e, after, hvisit, Nat.lt_of_le_of_lt (Graph.length_unseen_le hsub) hbefore⟩
        obtain ⟨cs, seen', hcs⟩ := exists_clauses hg (fun nodes => (g.unseen nodes).length < depth)
          htargets (fun x hx => exists_leads_of_mem_ends hg hn hx)
          { seen with nodes := id :: seen.nodes } hfewer
        refine ⟨.define id node.pattern (shownGroups groupLabels node) label cs, seen', ?_⟩
        simp [hrequire, hold, hnode, hcs, bind, Except.bind, pure, Except.pure]

/-- A traversal from a live node ends with an expression. -/
theorem exists_traverse [Pattern.Dialect] (groupLabels : Bool) (hg : g.WellFormed)
    (hlabels : ∀ id ∈ g.nodes.keys, ∃ name, labels.name? id = some name) {start : NodeId}
    (hstart : start ∈ g.nodes.keys) :
    ∃ e seen, traverse g labels groupLabels start = .ok (e, seen) := by
  have hsize : (g.unseen []).length < g.nodes.size + 1 := by
    have hle := List.length_filter_le (· ∉ ([] : List NodeId)) g.nodes.keys
    rw [OrderedMap.keys, List.length_map] at hle
    exact Nat.lt_succ_of_le hle
  exact exists_visit hg hlabels hstart hsize

end Query

end TreeQuery
