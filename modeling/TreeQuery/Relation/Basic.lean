import TreeQuery.Handle
import TreeQuery.Relation.Operator

set_option autoImplicit false

/-! # Relations

A relation joins two nodes. It is kept in the orientation in which it was created, and can be read
from either end. -/

namespace TreeQuery

/-- An edge between two nodes. -/
structure Relation where
  source : NodeId
  target : NodeId
  descriptor : Relation.Descriptor
  deriving DecidableEq, Repr, Inhabited

namespace Relation

/-- The end opposite to a node, if the node is an end. -/
def other (r : Relation) (id : NodeId) : Option NodeId :=
  if id = r.source then some r.target
  else if id = r.target then some r.source
  else none

/-- The end to which reading in a direction leads. -/
def far (r : Relation) : Direction → NodeId
  | .forward => r.target
  | .backward => r.source

/-- The operator that stands for the relation when it is read in a direction. -/
def operator (r : Relation) (dir : Direction) : String := r.descriptor.operator dir

end Relation

end TreeQuery
