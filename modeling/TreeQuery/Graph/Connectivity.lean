import TreeQuery.Graph.Basic

set_option autoImplicit false

/-! # Connectivity

Which nodes can be reached from a node by following relations in either direction. The search keeps
the nodes still to be looked at on a stack, where a node may lie several times; it ends because
every node is looked at once. -/

namespace TreeQuery.Graph

/-- The nodes at the other ends of the listed relations of a node. -/
def neighbours (g : Graph) (id : NodeId) : List RelationId → Except Fault (List NodeId)
  | [] => .ok []
  | r :: rs => do
    let relation ← g.requireRelation r
    let others ← g.neighbours id rs
    return (relation.other id).toList ++ others

/-- The nodes that have not been seen. -/
def unseen (g : Graph) (seen : List NodeId) : List NodeId := g.nodes.keys.filter (· ∉ seen)

/-- Seeing a node makes the unseen nodes fewer. -/
theorem length_unseen_lt {g : Graph} {seen : List NodeId} {id : NodeId} (hid : id ∈ g.nodes.keys)
    (hseen : id ∉ seen) : (g.unseen (seen ++ [id])).length < (g.unseen seen).length := by
  have hsub : g.unseen (seen ++ [id]) = (g.unseen seen).filter (· ≠ id) := by
    simp [unseen, List.filter_filter, Bool.and_comm]
  have hmem : id ∈ g.unseen seen := by simp [unseen, hid, hseen]
  rw [hsub]
  refine Nat.lt_of_le_of_ne (List.length_filter_le _ _) fun h => ?_
  have := List.length_filter_eq_length_iff.1 h id hmem
  simp at this

/-- Search from a stack of nodes, given the nodes seen so far in the order of their discovery. -/
def explore (g : Graph) (seen : List NodeId) : List NodeId → Except Fault (List NodeId)
  | [] => .ok seen
  | id :: stack =>
    if _ : id ∈ seen then g.explore seen stack
    else
      match _ : g.nodes.get? id with
      | none => .error (.missingNode id)
      | some node =>
        match g.neighbours id (node.outgoing ++ node.incoming) with
        | .error fault => .error fault
        | .ok others =>
          -- A node may come onto the stack again before it is looked at; it is dropped then.
          g.explore (seen ++ [id]) (others.filter (· ∉ seen ++ [id]) ++ stack)
termination_by stack => ((g.unseen seen).length, stack.length)
decreasing_by
  · exact Prod.Lex.right _ (by simp)
  · exact Prod.Lex.left _ _ (length_unseen_lt
      (OrderedMap.contains_iff_mem_keys.1 (by simp [OrderedMap.contains, *])) ‹_›)

/-- The nodes that can be reached from a node, itself first, in the order of a depth-first search
that follows the relations starting at a node before those ending at it. -/
def reachable (g : Graph) (start : NodeId) : Except Error (List NodeId) :=
  if g.nodes.contains start then (g.explore [] [start]).mapError .corrupt
  else .error (.unknownNode start)

end TreeQuery.Graph
