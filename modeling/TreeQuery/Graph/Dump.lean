import TreeQuery.LabelTable
import TreeQuery.Palette

set_option autoImplicit false

/-! # Dumps of graphs

A graph as text: a line for each node, then a line for each relation, both in the order of their
creation. With a label table every label of the table is shown, otherwise only the nodes' own. -/

namespace TreeQuery.Graph

/-- The line of a node. -/
def nodeLine (g : Graph) (p : Palette) (labels : Option LabelTable) (id : NodeId) (node : Node) :
    String :=
  let label :=
    match labels with
    | some labels => labels.name? id
    | none => if node.hasLabel then some node.label else none
  p.paint p.blue id.text
    ++ (if g.head = some id then " " ++ p.paint p.dim "(head)" else "")
    ++ ": " ++ p.paint p.green node.pattern
    ++ (match label with
      | some label => " " ++ p.paint p.blue ("=" ++ label)
      | none => "")
    ++ String.join (node.namedGroups.map fun (index, name) =>
      " #" ++ toString (index + 1) ++ "%" ++ name)
    ++ "\n"

/-- The line of a relation. -/
def relationLine (p : Palette) (id : RelationId) (relation : Relation) : String :=
  p.paint p.blue id.text ++ ": " ++ relation.source.text ++ " "
    ++ p.paint p.dim (relation.operator .forward) ++ " " ++ relation.target.text ++ "\n"

/-- The dump of a graph. -/
def dump (g : Graph) (labels : Option LabelTable) (p : Palette) : String :=
  String.join (g.nodes.entries.map fun (id, node) => g.nodeLine p labels id node)
    ++ String.join (g.relations.entries.map fun (id, relation) => relationLine p id relation)

end TreeQuery.Graph
