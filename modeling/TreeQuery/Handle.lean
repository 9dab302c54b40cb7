set_option autoImplicit false

/-! # Handles

Nodes and relations are named by numbers that a graph hands out once and never again. A handle is
shown as its number behind a letter. -/

namespace TreeQuery

/-- The handle of a node. -/
structure NodeId where
  index : Nat
  deriving DecidableEq, Repr, Inhabited

/-- The handle of a relation. -/
structure RelationId where
  index : Nat
  deriving DecidableEq, Repr, Inhabited

/-- How a node is shown. -/
def NodeId.text (id : NodeId) : String := "N" ++ toString id.index

/-- How a relation is shown. -/
def RelationId.text (id : RelationId) : String := "R" ++ toString id.index

end TreeQuery
