import TreeQuery.Diagnostic.Basic
import TreeQuery.LabelTable
import TreeQuery.Query.Config

set_option autoImplicit false

/-! # Checks of a graph

What is reported about a graph when a query is compiled from it: labels that several nodes carry,
names of capture groups that a pattern does not have, and nodes that the query does not reach. -/

namespace TreeQuery.Query

/-- A report about every carrier of a name but the first, which it points to. -/
def checkLabels (labels : LabelTable) : Diagnostics :=
  labels.duplicates.flatMap fun (name, nodes) =>
    match nodes with
    | [] => []
    | first :: rest => rest.map fun node =>
      ((Diagnostic.about .duplicateLabel node).withDetail name).withNote "first used here" first

/-- The hint about a named group that is missing, given the number of groups of the pattern. -/
def groupHint (index : Nat) : Option Nat → String
  | none => "pattern is not a valid regular expression"
  | some count =>
    "pattern has " ++ toString count ++ " capture groups, label names group "
      ++ toString (index + 1)

/-- The reports about the named groups of one node. -/
def checkNodeGroups [Pattern.Dialect] (id : NodeId) (node : Node) : Diagnostics :=
  node.missingGroups.map fun (index, name) =>
    ((Diagnostic.about .inactiveGroupLabel id).withDetail name).withHint
      (groupHint index node.captureCount)

/-- A report about every named group that its node's pattern does not have. -/
def checkGroupLabels [Pattern.Dialect] (g : Graph) : Diagnostics :=
  g.nodes.entries.flatMap fun (id, node) => checkNodeGroups id node

/-- The severity of a node that is not reached, if it is reported at all. -/
def unreachableSeverity : UnreachablePolicy → Option Severity
  | .ignore => none
  | .warn => some .warning
  | .error => some .error

/-- A report about every node that has not been reached. -/
def checkReached (g : Graph) (policy : UnreachablePolicy) (reached : List NodeId) : Diagnostics :=
  match unreachableSeverity policy with
  | none => []
  | some severity =>
    (g.nodes.entries.filter fun e => e.1 ∉ reached).map fun (id, node) =>
      ((Diagnostic.about .unreachableNode id).withDetail node.pattern).withSeverity severity

end TreeQuery.Query
