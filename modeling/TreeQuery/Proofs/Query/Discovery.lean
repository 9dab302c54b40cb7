import TreeQuery.Graph.Connectivity
import TreeQuery.Proofs.Graph.History
import TreeQuery.Proofs.Query.Search

set_option autoImplicit false

/-! # Two searches, one order

`Graph.explore` searches with a stack of nodes, `Query.visit` by recursion and along relations that
have not been met. They discover the same nodes in the same order: while the relations of a node
are read, the stack of the other search holds the nodes to which the remaining ones lead, and below
them what the recursion has still to come back to (`Reads.explore_eq`). A relation that one search
skips leads to a node that the other has seen, and drops. -/

namespace TreeQuery

namespace Graph

variable {g : Graph}

/-! ## Steps of the search with a stack -/

theorem explore_nil (g : Graph) (seen : List NodeId) : g.explore seen [] = .ok seen := by
  rw [explore]

theorem explore_cons_of_mem {seen stack : List NodeId} {id : NodeId} (h : id ∈ seen) :
    g.explore seen (id :: stack) = g.explore seen stack := by
  rw [explore, dif_pos h]

theorem explore_cons_of_not_mem {seen stack others : List NodeId} {id : NodeId} {node : Node}
    (h : id ∉ seen) (hn : g.nodes.get? id = some node)
    (hothers : g.neighbours id (node.outgoing ++ node.incoming) = .ok others) :
    g.explore seen (id :: stack) =
      g.explore (seen ++ [id]) (others.filter (· ∉ seen ++ [id]) ++ stack) := by
  rw [explore, dif_neg h]
  split
  · next hnone => exact absurd (hn.symm.trans hnone) (by simp)
  · next node' hn' =>
    obtain rfl : node = node' := Option.some.inj (hn.symm.trans hn')
    rw [hothers]

theorem reachable_of_not_mem {start : NodeId} (h : start ∉ g.nodes.keys) :
    g.reachable start = .error (.unknownNode start) := by
  rw [reachable, if_neg fun hcontains => h (OrderedMap.contains_iff_mem_keys.1 hcontains)]

/-- Nodes that have been seen can be taken off the stack, wherever they lie. -/
theorem explore_filter {old seen stack : List NodeId} (hold : old ⊆ seen) :
    g.explore seen stack = g.explore seen (stack.filter (· ∉ old)) := by
  fun_induction explore g seen stack with
  | case1 seen => rw [List.filter_nil, explore_nil]
  | case2 seen id stack hseen ih =>
      by_cases hid : id ∈ old
      · rw [List.filter_cons_of_neg (by simpa using hid)]
        exact ih hold
      · rw [List.filter_cons_of_pos (by simpa using hid), explore_cons_of_mem hseen]
        exact ih hold
  | case3 seen id stack hseen hnone =>
      have hid : id ∉ old := fun hm => hseen (hold hm)
      rw [List.filter_cons_of_pos (by simpa using hid), explore, dif_neg hseen]
      split
      · rfl
      · next node hn => exact absurd (hnone.symm.trans hn) (by simp)
  | case4 seen id stack hseen node hn fault hfault =>
      have hid : id ∉ old := fun hm => hseen (hold hm)
      rw [List.filter_cons_of_pos (by simpa using hid), explore, dif_neg hseen]
      split
      · next hnone => exact absurd (hn.symm.trans hnone) (by simp)
      · next node' hn' =>
        obtain rfl : node = node' := Option.some.inj (hn.symm.trans hn')
        rw [hfault]
  | case5 seen id stack hseen node hn others hothers ih =>
      -- The node is seen now, so the same nodes can be left out of what is pushed.
      have hid : id ∉ old := fun hm => hseen (hold hm)
      have hsub : old ⊆ seen ++ [id] := fun v hv => List.mem_append_left _ (hold hv)
      rw [List.filter_cons_of_pos (by simpa using hid), explore_cons_of_not_mem hseen hn hothers,
        ih hsub, List.filter_append, List.filter_filter]
      congr 2
      refine List.filter_congr fun v _ => ?_
      by_cases hv : v ∈ old
      · simp [hv, hold hv]
      · simp [hv]

theorem explore_filter_append {seen nodes stack : List NodeId} :
    g.explore seen (nodes.filter (· ∉ seen) ++ stack) = g.explore seen (nodes ++ stack) := by
  have hsub := List.Subset.refl seen
  rw [explore_filter hsub, List.filter_append, List.filter_filter]
  simp only [Bool.and_self]
  rw [← List.filter_append, ← explore_filter hsub]

end Graph

namespace Query

variable {g : Graph} {labels : LabelTable} {groupLabels : Bool}

/-- The node to which a relation leads when it is read in a direction. -/
def farEnd? (g : Graph) (x : RelationId × Relation.Direction) : Option NodeId :=
  (g.relations.get? x.1).map (·.far x.2)

theorem Leads.farEnd?_eq {id : NodeId} {x : RelationId × Relation.Direction}
    {relation : Relation} (h : Leads g id x relation) : farEnd? g x = some (relation.far x.2) := by
  rw [farEnd?, h.get, Option.map_some]

/-- The neighbours of a node are the nodes to which its relations lead. -/
theorem neighbours_eq {id : NodeId} {es : List (RelationId × Relation.Direction)}
    (h : ∀ x ∈ es, ∃ relation, Leads g id x relation) :
    g.neighbours id (es.map Prod.fst) = .ok (es.filterMap (farEnd? g)) := by
  induction es with
  | nil => rfl
  | cons x rest ih =>
      obtain ⟨relation, hleads⟩ := h x (List.mem_cons_self ..)
      have hrelation := Graph.requireRelation_eq_ok_iff.2 hleads.get
      rw [List.map_cons, Graph.neighbours, hrelation,
        ih fun y hy => h y (List.mem_cons_of_mem _ hy), List.filterMap_cons_some hleads.farEnd?_eq]
      show Except.ok ((relation.other id).toList ++ _) = _
      rw [hleads.other]
      rfl

/-- A relation that has been met leads to a node that is dropped from the stack. -/
theorem explore_of_met {seen : Seen} (hends : EndsMet g seen)
    {x : RelationId × Relation.Direction} (hmet : x.1 ∈ seen.relations)
    (rest : List (RelationId × Relation.Direction)) (stack : List NodeId) :
    g.explore seen.nodes.reverse ((x :: rest).filterMap (farEnd? g) ++ stack) =
      g.explore seen.nodes.reverse (rest.filterMap (farEnd? g) ++ stack) := by
  obtain ⟨relation, hrelation, hmem⟩ := hends x.1 hmet
  have hfar : relation.far x.2 ∈ seen.nodes := hmem _ (relation.touches_far x.2)
  rw [List.filterMap_cons_some (by rw [farEnd?, hrelation, Option.map_some]),
    List.cons_append, Graph.explore_cons_of_mem (List.mem_reverse.2 hfar)]

section

variable [Pattern.Dialect]

mutual

theorem Visits.explore_eq (hg : g.WellFormed) {path : List NodeId} {id : NodeId}
    {seen seen' : Seen} {e : Expr} (h : Visits g labels groupLabels id seen e seen')
    (ho : Open g path id (seen.enter id)) (stack : List NodeId) :
    g.explore seen.nodes.reverse (id :: stack) = g.explore seen'.nodes.reverse stack :=
  match h with
  | .back _ hold => Graph.explore_cons_of_mem (List.mem_reverse.2 hold)
  | .first _ hnew hnode hreads => by
      have hothers := neighbours_eq fun _ hx => exists_leads_of_mem_ends hg hnode hx
      rw [map_fst_ends] at hothers
      rw [Graph.explore_cons_of_not_mem (fun hm => hnew (List.mem_reverse.1 hm)) hnode hothers,
        Graph.explore_filter_append, ← hreads.explore_eq hg ho stack, Seen.nodes_enter,
        List.reverse_cons]

/-- While relations are read, the stack holds the nodes to which they lead. -/
theorem Reads.explore_eq (hg : g.WellFormed) {path : List NodeId} {id : NodeId}
    {es : List (RelationId × Relation.Direction)} {seen seen' : Seen} {cs : List (Clause Expr)}
    (h : Reads g labels groupLabels id es seen cs seen') (ho : Open g path id seen)
    (stack : List NodeId) :
    g.explore seen.nodes.reverse (es.filterMap (farEnd? g) ++ stack) =
      g.explore seen'.nodes.reverse stack :=
  match h with
  | .nil => rfl
  | .skip hmet hrest => by
      rw [explore_of_met ho.ends_met hmet]
      exact hrest.explore_eq hg ho stack
  | .read _ hleads htarget hrest => by
      -- The target is explored with the other relations below it on the stack.
      have hin := htarget.open hg (ho.enter hleads)
      rw [List.filterMap_cons_some hleads.farEnd?_eq, List.cons_append, ← Seen.nodes_mark,
        htarget.explore_eq hg (ho.enter hleads)]
      exact hrest.explore_eq hg (ho.after_visit hg htarget hin) stack

end

/-- A search that has nothing left to do has seen the nodes of the expression. -/
theorem Visits.reachable_eq (hg : g.WellFormed) {start : NodeId} {seen : Seen} {e : Expr}
    (h : Visits g labels groupLabels start {} e seen) : g.reachable start = .ok e.nodes := by
  have hexplore : g.explore [] [start] = .ok e.nodes := by
    have hsearch := h.explore_eq hg (.start g start) []
    rw [Graph.explore_nil, h.nodes_eq] at hsearch
    simpa using hsearch
  cases h with
  | back hlabel hold => exact absurd hold List.not_mem_nil
  | first hlabel hnew hnode hreads =>
      rw [Graph.reachable, if_pos (by rw [OrderedMap.contains, hnode]; rfl), hexplore]
      rfl

/-- A compiled expression mentions the nodes that can be reached for the first time in the order in
which they are reached, each of them once. -/
theorem reachable_eq_nodes {start : NodeId} {config : Config} {c : Compiled} (hg : g.Buildable)
    (hc : g.compileFrom start config = .ok c) :
    ∃ e, c.expr = some e ∧ g.reachable start = .ok e.nodes ∧ e.nodes.Nodup := by
  obtain ⟨e, seen, he, hvisits⟩ := visits_of_compileFrom hc
  exact ⟨e, he, hvisits.reachable_eq hg.wellFormed, hvisits.nodup_expr.1⟩

/-- What can be reached can be found by running a compilation. -/
theorem reachable_of_compileFrom_map (hg : g.Buildable) (config : Config) {start : NodeId}
    {nodes : List NodeId}
    (h : (g.compileFrom start config).toOption.bind (·.expr.map Expr.nodes) = some nodes) :
    g.reachable start = .ok nodes := by
  cases hc : g.compileFrom start config with
  | error failure => simp [hc, Except.toOption] at h
  | ok c =>
      obtain ⟨e, seen, he, hvisits⟩ := visits_of_compileFrom hc
      rw [hvisits.reachable_eq hg.wellFormed, eq_of_compileFrom_map hc he h]

end

/-- `2` is found from `3`, not from `0`. -/
theorem reachable_knot : knot.reachable ⟨0⟩ = .ok [⟨0⟩, ⟨1⟩, ⟨3⟩, ⟨2⟩] := by
  obtain ⟨c, hc⟩ : ∃ c, knot.compileFrom ⟨0⟩ {} = .ok c := ⟨_, rfl⟩
  obtain ⟨e, he, hreachable, -⟩ := reachable_eq_nodes buildable_knot hc
  have hnodes : e.nodes = [⟨0⟩, ⟨1⟩, ⟨3⟩, ⟨2⟩] := eq_of_compileFrom_map hc he rfl
  rw [hreachable, hnodes]

end Query

end TreeQuery
