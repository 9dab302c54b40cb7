import TreeQuery.Node
import TreeQuery.OrderedMap
import TreeQuery.Relation.Basic

set_option autoImplicit false

/-! # Graphs

A graph holds nodes and the relations between them, both in the order of their creation, and one
node as its head. Each node also lists its relations; `hasRelationTo` and `hasRelationFrom` read
those lists. -/

namespace TreeQuery

/-- Nodes, relations, the head, and the numbers of the next handles. -/
structure Graph where
  nodes : OrderedMap NodeId Node := .empty
  relations : OrderedMap RelationId Relation := .empty
  /-- The node from which the graph is read. -/
  head : Option NodeId := none
  nextNode : Nat := 0
  nextRelation : Nat := 0
  deriving DecidableEq, Inhabited

namespace Graph

/-- The graph without nodes. -/
def empty : Graph := {}

/-! ## Queries -/

/-- A node that has to be there. -/
def requireNode (g : Graph) (id : NodeId) : Except Fault Node :=
  match g.nodes.get? id with
  | some node => .ok node
  | none => .error (.missingNode id)

/-- A relation that has to be there. -/
def requireRelation (g : Graph) (id : RelationId) : Except Fault Relation :=
  match g.relations.get? id with
  | some relation => .ok relation
  | none => .error (.missingRelation id)

/-- The relations that touch a node: those that end at it, then those that start at it. -/
def incident (g : Graph) (id : NodeId) : Except Error (List RelationId) :=
  match g.nodes.get? id with
  | some node => .ok (node.incoming ++ node.outgoing)
  | none => .error (.unknownNode id)

/-- The number of relations that touch a node. -/
def degree (g : Graph) (id : NodeId) : Except Error Nat :=
  match g.nodes.get? id with
  | some node => .ok node.degree
  | none => .error (.unknownNode id)

/-- Whether one of the listed relations satisfies a test; they are looked up one after another. -/
def anyRelation (g : Graph) (test : Relation → Bool) : List RelationId → Except Fault Bool
  | [] => .ok false
  | id :: ids => do
    let relation ← g.requireRelation id
    if test relation then return true else g.anyRelation test ids

/-- Whether a relation runs from one node to another, by the list of the node where it starts. -/
def hasRelationTo (g : Graph) (source target : NodeId) : Except Fault Bool :=
  match g.nodes.get? source with
  | some node => g.anyRelation (·.target = target) node.outgoing
  | none => .ok false

/-- Whether a relation runs into a node from another, by the list of the node where it ends. -/
def hasRelationFrom (g : Graph) (target source : NodeId) : Except Fault Bool :=
  match g.nodes.get? target with
  | some node => g.anyRelation (·.source = source) node.incoming
  | none => .ok false

end Graph

end TreeQuery
