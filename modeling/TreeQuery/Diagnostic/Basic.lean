import TreeQuery.Handle

set_option autoImplicit false

/-! # Diagnostics

What is reported about a graph while a query is compiled from it. A diagnostic is about a node; its
message comes from its kind, either in general words or around a detail given by the reporter. -/

namespace TreeQuery

/-- How grave a diagnostic is. -/
inductive Severity
  | error
  | warning
  deriving DecidableEq, Repr, Inhabited

/-- The word for a severity. -/
def Severity.text : Severity → String
  | error => "error"
  | warning => "warning"

namespace Diagnostic

/-- What a diagnostic is about. -/
inductive Kind
  | unreachableNode
  | duplicateLabel
  | inactiveGroupLabel
  deriving DecidableEq, Repr, Inhabited

namespace Kind

/-- The severity that a kind has unless a policy decides otherwise. -/
def severity : Kind → Severity
  | _ => .warning

/-- The hint that goes with a kind. -/
def hint : Kind → Option String
  | unreachableNode => some "relate it to a node reachable from the head, or delete it"
  | duplicateLabel => some "nodes sharing a label match the same tree node"
  | inactiveGroupLabel => some "add a capture group to the pattern or clear the group label"

/-- The message of a kind in general words. -/
def generalMessage : Kind → String
  | unreachableNode => "node is not reachable from the head"
  | duplicateLabel => "label is used by more than one node"
  | inactiveGroupLabel => "group label has no capture group to name"

/-- What stands before and after the detail in the message of a kind. -/
def frame : Kind → String × String
  | unreachableNode => ("node `", "` is not reachable from the head")
  | duplicateLabel => ("label `", "` is used by more than one node")
  | inactiveGroupLabel => ("group label `", "` has no capture group to name")

/-- The message of a kind with a pair of braces in place of the detail. -/
def template (k : Kind) : String := k.frame.1 ++ "\x7b\x7d" ++ k.frame.2

/-- The message of a kind, with a detail if there is one. -/
def message (k : Kind) : Option String → String
  | none => k.generalMessage
  | some detail => k.frame.1 ++ detail ++ k.frame.2

end Kind

/-- A remark that points at another node. -/
structure Note where
  node : NodeId
  message : String
  deriving DecidableEq, Repr

end Diagnostic

/-- A report about a node. -/
structure Diagnostic where
  kind : Diagnostic.Kind
  severity : Severity
  node : NodeId
  message : String
  notes : List Diagnostic.Note := []
  hints : List String := []
  deriving DecidableEq, Repr

namespace Diagnostic

/-! ## Building -/

/-- A report of a kind about a node, with everything as the kind has it. -/
def about (kind : Kind) (node : NodeId) : Diagnostic where
  kind := kind
  severity := kind.severity
  node := node
  message := kind.message none
  hints := kind.hint.toList

/-- Say the message with a detail. -/
def withDetail (d : Diagnostic) (detail : String) : Diagnostic :=
  { d with message := d.kind.message (some detail) }

/-- Change the severity. -/
def withSeverity (d : Diagnostic) (severity : Severity) : Diagnostic := { d with severity }

/-- Add a remark about another node. -/
def withNote (d : Diagnostic) (message : String) (node : NodeId) : Diagnostic :=
  { d with notes := d.notes ++ [⟨node, message⟩] }

/-- Add a hint. -/
def withHint (d : Diagnostic) (hint : String) : Diagnostic := { d with hints := d.hints ++ [hint] }

/-- The report in one line. -/
def text (d : Diagnostic) : String :=
  d.severity.text ++ " at " ++ d.node.text ++ ": " ++ d.message
    ++ String.join (d.notes.map fun n => " (related: " ++ n.message ++ " at " ++ n.node.text ++ ")")
    ++ String.join (d.hints.map fun hint => " (hint: " ++ hint ++ ")")

end Diagnostic

/-- The reports of a compilation, in the order in which they were made. -/
abbrev Diagnostics := List Diagnostic

namespace Diagnostics

/-- The reports of one severity. -/
def ofSeverity (ds : Diagnostics) (severity : Severity) : Diagnostics :=
  ds.filter (·.severity = severity)

/-- The reports of one kind. -/
def ofKind (ds : Diagnostics) (kind : Diagnostic.Kind) : Diagnostics := ds.filter (·.kind = kind)

/-- The number of errors. -/
def errorCount (ds : Diagnostics) : Nat := (ds.ofSeverity .error).length

/-- The number of warnings. -/
def warningCount (ds : Diagnostics) : Nat := (ds.ofSeverity .warning).length

/-- Whether some report is an error. -/
def hasErrors (ds : Diagnostics) : Bool := ds.any (·.severity = .error)

/-- Whether some report is a warning. -/
def hasWarnings (ds : Diagnostics) : Bool := ds.any (·.severity = .warning)

end Diagnostics

end TreeQuery
