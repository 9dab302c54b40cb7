import TreeQuery.Handle

set_option autoImplicit false

/-! # Errors of graphs

A request that a graph refuses fails for one of five reasons, each with a text of its own. A fault
is something else: a look-up inside an operation that finds nothing, which a graph built by its own
operations never meets. -/

namespace TreeQuery.Graph

/-- An inner look-up that found nothing. -/
inductive Fault
  | missingNode (id : NodeId)
  | missingRelation (id : RelationId)
  | missingLabel (id : NodeId)
  /-- A node lists a relation that does not join it to the expected node. -/
  | foreignRelation (relation : RelationId) (node : NodeId)
  /-- A traversal went deeper than the graph has nodes. -/
  | tooDeep (id : NodeId)
  deriving DecidableEq, Repr

/-- Why a graph refuses a request. -/
inductive Error
  | unknownNode (id : NodeId)
  | unknownRelation (id : RelationId)
  /-- A relation would join a node to itself. -/
  | selfRelation (id : NodeId)
  /-- The head would be deleted without force. -/
  | headDeletion (id : NodeId)
  | groupIndexOutOfRange (index max : Nat)
  | corrupt (fault : Fault)
  deriving DecidableEq, Repr

/-- The text of a fault. -/
def Fault.message : Fault → String
  | missingNode id => "node " ++ id.text ++ " is missing"
  | missingRelation id => "relation " ++ id.text ++ " is missing"
  | missingLabel id => "node " ++ id.text ++ " has no label"
  | foreignRelation relation node =>
    "relation " ++ relation.text ++ " does not belong to node " ++ node.text
  | tooDeep id => "node " ++ id.text ++ " lies too deep"

/-- The text of an error. -/
def Error.message : Error → String
  | unknownNode id => "node " ++ id.text ++ " is not part of this graph"
  | unknownRelation id => "relation " ++ id.text ++ " is not part of this graph"
  | selfRelation id => "node " ++ id.text ++ " cannot be related to itself"
  | headDeletion id => "cannot delete head node " ++ id.text ++ " without force"
  | groupIndexOutOfRange index max =>
    "group index " ++ toString index ++ " out of range (at most " ++ toString max
      ++ " group labels)"
  | corrupt fault => fault.message

end TreeQuery.Graph
