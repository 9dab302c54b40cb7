import TreeQuery.Proofs.Graph.Component
import TreeQuery.Proofs.Query.Discovery

set_option autoImplicit false

/-! # What can be reached is the component

`Graph.reachable` searches with a stack on which a node may lie several times. Whatever the stack
holds, what has been seen and what is on the stack is joined to the start, and what lies next to a
node that has been seen has been seen or is on the stack (`Graph.Exploring`). Each turn of the
search keeps this, and it ends with an empty stack; then the nodes that have been seen are those
that are joined to the start. -/

namespace TreeQuery.Graph

variable {g : Graph} {start id : NodeId} {seen stack nodes : List NodeId}

/-- The listed nodes are the component of a node: the node itself comes first, and each node that
is joined to it is listed once. -/
structure IsComponent (g : Graph) (start : NodeId) (nodes : List NodeId) : Prop where
  head?_eq : nodes.head? = some start
  nodup : nodes.Nodup
  mem_iff : ∀ v, v ∈ nodes ↔ g.Joined start v

/-! ## Neighbours -/

/-- Going along relations that are there does not fail, and leads to their other ends. -/
theorem exists_neighbours (id : NodeId) {rs : List RelationId}
    (hlive : ∀ r ∈ rs, r ∈ g.relations.keys) :
    ∃ others, g.neighbours id rs = .ok others ∧ ∀ v, v ∈ others ↔
      ∃ r ∈ rs, ∃ relation, g.relations.get? r = some relation ∧ relation.other id = some v := by
  induction rs with
  | nil => exact ⟨[], rfl, by simp⟩
  | cons r rest ih =>
      obtain ⟨relation, hr⟩ := OrderedMap.mem_keys_iff.1 (hlive r (List.mem_cons_self ..))
      obtain ⟨others, hothers, hmem⟩ := ih fun r' hr' => hlive r' (List.mem_cons_of_mem _ hr')
      refine ⟨(relation.other id).toList ++ others, ?_, fun v => ?_⟩
      · rw [neighbours, requireRelation_eq_ok_iff.2 hr, hothers]
        rfl
      · simp [hmem, hr, Option.mem_toList]

namespace WellFormed

/-- The relations of a node lead to the nodes next to it. -/
theorem exists_neighbours_node (hg : g.WellFormed) {node : Node}
    (hn : g.nodes.get? id = some node) :
    ∃ others, g.neighbours id (node.outgoing ++ node.incoming) = .ok others ∧
      ∀ v, v ∈ others ↔ g.Adjacent id v := by
  have hlisted : ∀ r, r ∈ node.outgoing ++ node.incoming ↔ r ∈ node.incoming ++ node.outgoing :=
    fun r => by rw [List.mem_append, List.mem_append, or_comm]
  obtain ⟨others, hothers, hmem⟩ :=
    exists_neighbours id fun r hr => hg.incident_live hn r ((hlisted r).1 hr)
  refine ⟨others, hothers, fun v => (hmem v).trans ⟨?_, ?_⟩⟩
  · rintro ⟨r, -, relation, hr, hother⟩
    exact ⟨r, relation, hr, hother⟩
  · rintro ⟨r, relation, hr, hother⟩
    have htouch := (Relation.touches_of_other hother).1
    exact ⟨r, (hlisted r).2 ((hg.mem_incident hn).2 ⟨relation, hr, htouch⟩), relation, hr, hother⟩

end WellFormed

/-! ## The state of a search -/

/-- A search from a node has seen some nodes and has others on its stack. -/
structure Exploring (g : Graph) (start : NodeId) (seen stack : List NodeId) : Prop where
  nodup : seen.Nodup
  /-- The start is what was seen first; before that it lies on top of the stack. -/
  head?_eq : (seen ++ stack).head? = some start
  joined : ∀ v ∈ seen ++ stack, g.Joined start v
  /-- Nothing next to a node that has been seen is lost. -/
  closed : ∀ u ∈ seen, ∀ v, g.Adjacent u v → v ∈ seen ++ stack

namespace Exploring

theorem initial (g : Graph) (id : NodeId) : g.Exploring id [] [id] where
  nodup := List.nodup_nil
  head?_eq := rfl
  joined := fun _ hv => List.mem_singleton.1 hv ▸ .refl g id
  closed := fun _ hu => absurd hu List.not_mem_nil

/-- A node that has been seen is dropped from the stack. -/
theorem drop (h : g.Exploring start seen (id :: stack)) (hid : id ∈ seen) :
    g.Exploring start seen stack where
  nodup := h.nodup
  head?_eq := by
    have hne := List.ne_nil_of_mem hid
    rw [List.head?_append_of_ne_nil _ hne, ← h.head?_eq, List.head?_append_of_ne_nil _ hne]
  joined := by
    intro v hv
    refine h.joined v (List.mem_append.2 ?_)
    exact (List.mem_append.1 hv).imp_right (List.mem_cons_of_mem id)
  closed := by
    intro u hu v huv
    rcases List.mem_append.1 (h.closed u hu v huv) with hv | hv
    · exact List.mem_append_left _ hv
    · rcases List.mem_cons.1 hv with rfl | hv
      · exact List.mem_append_left _ hid
      · exact List.mem_append_right _ hv

/-- A node that has not been seen is seen, and what lies next to it comes onto the stack. -/
theorem enter (h : g.Exploring start seen (id :: stack)) (hid : id ∉ seen) {others : List NodeId}
    (hothers : ∀ v, v ∈ others ↔ g.Adjacent id v) :
    g.Exploring start (seen ++ [id]) (others.filter (· ∉ seen ++ [id]) ++ stack) where
  nodup := h.nodup.append (List.nodup_singleton id) (List.disjoint_singleton.2 hid)
  head?_eq := by
    rw [← h.head?_eq]
    cases seen <;> rfl
  joined := by
    intro v hv
    have hjoined : g.Joined start id := h.joined id (by simp)
    rcases List.mem_append.1 hv with hv | hv
    · exact h.joined v (by rw [List.append_cons]; exact List.mem_append_left _ hv)
    · rcases List.mem_append.1 hv with hv | hv
      · obtain ⟨r, relation, hr, hother⟩ := (hothers v).1 (List.mem_filter.1 hv).1
        exact hjoined.step hr hother
      · exact h.joined v (by simp [hv])
  closed := by
    intro u hu v huv
    by_cases hv : v ∈ seen ++ [id]
    · exact List.mem_append_left _ hv
    · refine List.mem_append_right _ (List.mem_append.2 ?_)
      rcases List.mem_append.1 hu with hu | hu
      · -- What was lost here would have been lost before.
        have hold := h.closed u hu v huv
        rw [List.append_cons, List.mem_append] at hold
        exact .inr (hold.resolve_left hv)
      · rw [List.mem_singleton.1 hu] at huv
        exact .inl (List.mem_filter.2 ⟨(hothers v).2 huv, by simpa using hv⟩)

/-- A search goes on, without meeting a fault, until its stack is empty. -/
theorem exists_explore (hg : g.WellFormed) (hstart : start ∈ g.nodes.keys)
    (h : g.Exploring start seen stack) :
    ∃ nodes, g.explore seen stack = .ok nodes ∧ g.Exploring start nodes [] := by
  -- What is on the stack is joined to the start, so it is there.
  have hlive : ∀ {seen stack id}, g.Exploring start seen (id :: stack) →
      ∃ node, g.nodes.get? id = some node := fun {_ _ id} hi =>
    OrderedMap.mem_keys_iff.1 ((hi.joined id (by simp)).live hg hstart)
  fun_induction Graph.explore g seen stack with
  | case1 seen => exact ⟨seen, rfl, h⟩
  | case2 seen id stack hseen ih => exact ih (h.drop hseen)
  | case3 seen id stack hseen hnone =>
      obtain ⟨node, hn⟩ := hlive h
      exact absurd (hnone.symm.trans hn) (by simp)
  | case4 seen id stack hseen node hn fault hfault =>
      obtain ⟨others, hothers, -⟩ := hg.exists_neighbours_node hn
      exact absurd (hfault.symm.trans hothers) (by simp)
  | case5 seen id stack hseen node hn others hothers ih =>
      obtain ⟨others', hothers', hmem⟩ := hg.exists_neighbours_node hn
      obtain rfl := Except.ok.inj (hothers.symm.trans hothers')
      exact ih (h.enter hseen hmem)

/-- When nothing is left on the stack, everything that is joined to the start has been seen. -/
theorem isComponent (h : g.Exploring start nodes []) : g.IsComponent start nodes where
  head?_eq := by simpa using h.head?_eq
  nodup := h.nodup
  mem_iff := by
    refine fun v => ⟨fun hv => h.joined v (List.mem_append_left _ hv), fun hv => ?_⟩
    induction hv with
    | refl => exact List.mem_of_head? (by simpa using h.head?_eq)
    | tail _ hadjacent ih => simpa using h.closed _ ih _ hadjacent

end Exploring

/-- **What can be reached is the component.** From a node that is there a search ends and finds its
component; from any other handle it is refused. -/
theorem reachable_isComponent (hg : g.Buildable) (start : NodeId) :
    if start ∈ g.nodes.keys then
      ∃ nodes, g.reachable start = .ok nodes ∧ g.IsComponent start nodes
    else g.reachable start = .error (.unknownNode start) := by
  split
  · next hstart =>
    obtain ⟨nodes, hnodes, hdone⟩ := (Exploring.initial g start).exists_explore hg.wellFormed hstart
    refine ⟨nodes, ?_, hdone.isComponent⟩
    rw [reachable, if_pos (OrderedMap.contains_iff_mem_keys.2 hstart), hnodes]
    rfl
  · next hstart => exact reachable_of_not_mem hstart

/-- Three nodes in a circle, two of them joined both ways, and a fourth that was joined to them
through a node that has been deleted. -/
def islands : Graph :=
  .replay .empty [.createNode "a", .createNode "b", .createNode "c", .createNode "d",
    .createNode "e", .createRelation ⟨0⟩ ⟨1⟩ {}, .createRelation ⟨1⟩ ⟨0⟩ {},
    .createRelation ⟨1⟩ ⟨2⟩ {}, .createRelation ⟨0⟩ ⟨2⟩ {}, .createRelation ⟨2⟩ ⟨3⟩ {},
    .createRelation ⟨4⟩ ⟨3⟩ {}, .deleteNode ⟨3⟩]

theorem buildable_islands : islands.Buildable := ⟨_, rfl⟩

theorem reachable_islands :
    islands.reachable ⟨2⟩ = .ok [⟨2⟩, ⟨1⟩, ⟨0⟩] ∧ islands.IsComponent ⟨2⟩ [⟨2⟩, ⟨1⟩, ⟨0⟩] ∧
    ¬ islands.Joined ⟨2⟩ ⟨4⟩ ∧ islands.reachable ⟨3⟩ = .error (.unknownNode ⟨3⟩) := by
  have hrun : islands.reachable ⟨2⟩ = .ok [⟨2⟩, ⟨1⟩, ⟨0⟩] :=
    Query.reachable_of_compileFrom_map buildable_islands {} rfl
  have hlive := reachable_isComponent buildable_islands ⟨2⟩
  rw [if_pos (by decide)] at hlive
  obtain ⟨nodes, hnodes, hcomponent⟩ := hlive
  obtain rfl := Except.ok.inj (hrun.symm.trans hnodes)
  have hdead := reachable_isComponent buildable_islands ⟨3⟩
  rw [if_neg (by decide)] at hdead
  exact ⟨hrun, hcomponent, fun hjoined => absurd ((hcomponent.mem_iff _).2 hjoined) (by decide),
    hdead⟩

end TreeQuery.Graph
