import TreeQuery.LabelTable
import TreeQuery.Query.Expr

set_option autoImplicit false

/-! # From graphs to expressions

The expression of a graph is found by a depth-first search that marks nodes and relations. A node
that is met again becomes a reference back, a relation that is met again is passed over; so each
relation is written once, read from the end that is visited first. -/

namespace TreeQuery.Query

/-- What the search has met: nodes and relations, latest first. -/
structure Seen where
  nodes : List NodeId := []
  relations : List RelationId := []
  deriving DecidableEq, Repr, Inhabited

/-- The relations of a node with the directions in which they are read from it: those that start at
it, then those that end at it. -/
def ends (node : Node) : List (RelationId × Relation.Direction) :=
  node.outgoing.map (·, .forward) ++ node.incoming.map (·, .backward)

/-- The clauses for relations read from a node, given how a target is visited. A relation is marked
before its target is visited. -/
def clauses (g : Graph) (visitTarget : NodeId → Seen → Except Graph.Fault (Expr × Seen))
    (id : NodeId) :
    List (RelationId × Relation.Direction) → Seen → Except Graph.Fault (List (Clause Expr) × Seen)
  | [], seen => .ok ([], seen)
  | (r, dir) :: rest, seen =>
    if r ∈ seen.relations then clauses g visitTarget id rest seen
    else do
      let relation ← g.requireRelation r
      if relation.other id = some (relation.far dir) then
        let (target, seen) ←
          visitTarget (relation.far dir) { seen with relations := r :: seen.relations }
        let (others, seen) ← clauses g visitTarget id rest seen
        return (⟨r, relation.operator dir, target⟩ :: others, seen)
      else throw (.foreignRelation r id)

/-- The capture groups that are written behind the pattern of a node. -/
def shownGroups [Pattern.Dialect] (groupLabels : Bool) (node : Node) : List (Nat × String) :=
  if groupLabels then node.activeGroups else []

/-- The expression for a node, and what has been met after it. The first argument bounds the depth
of the search. -/
def visit [Pattern.Dialect] (g : Graph) (labels : LabelTable) (groupLabels : Bool) :
    Nat → NodeId → Seen → Except Graph.Fault (Expr × Seen)
  | 0, id, _ => .error (.tooDeep id)
  | depth + 1, id, seen => do
    let label ← labels.require id
    if id ∈ seen.nodes then return (.backRef id label, seen)
    else
      let node ← g.requireNode id
      let (cs, seen) ← clauses g (visit g labels groupLabels depth) id (ends node)
        { seen with nodes := id :: seen.nodes }
      return (.define id node.pattern (shownGroups groupLabels node) label cs, seen)

/-- The expression of a graph from a start node on, and what it has met. Every node on the way to
another is a different one, so the search goes no deeper than the graph has nodes, but for the
reference back at the end of the way. -/
def traverse [Pattern.Dialect] (g : Graph) (labels : LabelTable) (groupLabels : Bool)
    (start : NodeId) : Except Graph.Fault (Expr × Seen) :=
  visit g labels groupLabels (g.nodes.size + 1) start {}

end TreeQuery.Query
