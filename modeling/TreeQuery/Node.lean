import TreeQuery.Graph.Error
import TreeQuery.Pattern.Dialect
import TreeQuery.Relation.Descriptor
import TreeQuery.Text.Blank

set_option autoImplicit false

/-! # Nodes

A node is a pattern for a tree node, with a label and names for its pattern's capture groups. It
also lists the relations that end and start at it; those lists are kept by the graph it belongs to,
and no edit of a node touches them. -/

namespace TreeQuery

/-- The number of capture groups that a node can name. -/
def maxGroupLabels : Nat := 4

/-- A vertex of a graph. -/
structure Node where
  pattern : String := matchAny
  /-- The label given by the user; empty if there is none. -/
  label : String := ""
  /-- The names of the first capture groups. -/
  groupLabels : Vector (Option String) maxGroupLabels := Vector.replicate maxGroupLabels none
  /-- The relations that end here, oldest first. -/
  incoming : List RelationId := []
  /-- The relations that start here, oldest first. -/
  outgoing : List RelationId := []
  deriving DecidableEq, Repr, Inhabited

namespace Node

/-- Whether the node has a label of its own. -/
def hasLabel (node : Node) : Bool := !node.label.isEmpty

/-- The name of a capture group, if it has one. -/
def groupLabel? (node : Node) (index : Nat) : Option String := (node.groupLabels[index]?).join

/-- The named capture groups in index order, also those that the pattern does not have. -/
def namedGroups (node : Node) : List (Nat × String) :=
  (List.range maxGroupLabels).filterMap fun index => (node.groupLabel? index).map (index, ·)

/-- The number of capture groups of the pattern, if it is valid. -/
def captureCount [Pattern.Dialect] (node : Node) : Option Nat :=
  Pattern.Dialect.captureCount node.pattern

/-- The named capture groups that the pattern has. -/
def activeGroups [Pattern.Dialect] (node : Node) : List (Nat × String) :=
  node.namedGroups.filter fun g => g.1 < node.captureCount.getD 0

/-- The named capture groups that the pattern does not have. -/
def missingGroups [Pattern.Dialect] (node : Node) : List (Nat × String) :=
  node.namedGroups.filter fun g => node.captureCount.getD 0 ≤ g.1

/-- The number of relations that end or start here. -/
def degree (node : Node) : Nat := node.incoming.length + node.outgoing.length

/-! ## Edits -/

/-- Give the node a label; blanks at its ends are dropped. -/
def setLabel (node : Node) (label : String) : Node := { node with label := Text.trim label }

/-- Name a capture group; blanks at the ends of the name are dropped, and a blank name takes the
name away. -/
def setGroupLabel (node : Node) (index : Nat) (name : String) : Except Graph.Error Node :=
  if h : index < maxGroupLabels then
    let trimmed := Text.trim name
    let slot := if trimmed.isEmpty then none else some trimmed
    .ok { node with groupLabels := node.groupLabels.set index slot }
  else .error (.groupIndexOutOfRange index maxGroupLabels)

/-- One change of a node. -/
inductive Edit
  | setPattern (pattern : String)
  | setLabel (label : String)
  | setGroupLabel (index : Nat) (name : String)
  deriving DecidableEq, Repr

/-- Carry out one change. -/
def edit (node : Node) : Edit → Except Graph.Error Node
  | .setPattern pattern => .ok { node with pattern }
  | .setLabel label => .ok (node.setLabel label)
  | .setGroupLabel index name => node.setGroupLabel index name

/-! ## The lists of relations -/

/-- List a relation that starts here. -/
def addOutgoing (id : RelationId) (node : Node) : Node :=
  { node with outgoing := node.outgoing ++ [id] }

/-- List a relation that ends here. -/
def addIncoming (id : RelationId) (node : Node) : Node :=
  { node with incoming := node.incoming ++ [id] }

/-- Strike a relation that started here. -/
def dropOutgoing (id : RelationId) (node : Node) : Node :=
  { node with outgoing := node.outgoing.filter (· ≠ id) }

/-- Strike a relation that ended here. -/
def dropIncoming (id : RelationId) (node : Node) : Node :=
  { node with incoming := node.incoming.filter (· ≠ id) }

end Node

end TreeQuery
