import TreeQuery.Relation.Descriptor

set_option autoImplicit false

/-! # Operators

How a descriptor is written in the query language. A relation is written from either of its two
ends, and each end has its own token; negation and optionality are written in front of it. -/

namespace TreeQuery.Relation

/-- The end from which a relation is read: forward from its source, backward from its target. -/
inductive Direction
  | forward
  | backward
  deriving DecidableEq, Repr, Inhabited

/-- The forward or the backward one of two texts. -/
def Direction.pick (forward backward : String) : Direction → String
  | .forward => forward
  | .backward => backward

namespace Descriptor

/-- The token of the relation, without the marks of negation and optionality. -/
def token (d : Descriptor) (dir : Direction) : String :=
  match d.kind with
  | .descendant => dir.pick ">>" "<<"
  | .directDescendant => dir.pick ">" "<"
  | .nthChild => dir.pick ">" "<" ++ if d.n = .first then "," else toString d.n.value
  | .nthToLastChild => dir.pick ">-" "<-" ++ if d.n = .first then "" else toString d.n.value
  | .precedes => dir.pick ".." ",,"
  | .immediatelyPrecedes => dir.pick "." ","
  | .onlyDescendant => dir.pick ">:" "<:"
  | .unaryDescendant => dir.pick ">>:" "<<:"
  | .leftmostDescendant => dir.pick ">>," "<<,"
  | .rightmostDescendant => dir.pick ">>-" "<<-"
  | .sibling => "$"
  | .leftSibling => dir.pick "$.." "$,,"
  | .immediateLeftSibling => dir.pick "$." "$,"
  | .descendantVia => dir.pick ">" "<" ++ "+(" ++ d.via ++ ")"
  | .precedesVia => dir.pick "." "," ++ "+(" ++ d.via ++ ")"

/-- The operator of the relation: `!` if negative, then `?` if optional, then the token. -/
def operator (d : Descriptor) (dir : Direction) : String :=
  (if d.negative then "!" else "") ++ (if d.optional then "?" else "") ++ d.token dir

end Descriptor

end TreeQuery.Relation
