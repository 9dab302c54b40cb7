import TreeQuery.Diagnostic.Printer
import TreeQuery.Pattern.Reader
import TreeQuery.Query.Checks
import TreeQuery.Query.Traversal

set_option autoImplicit false

/-! # Compiling queries

A query is compiled from a graph and a start node. The graph is checked on the way; an error among
the reports means that there is no query, warnings go with it. Patterns can be written in any
dialect. -/

namespace TreeQuery

/-- Why there is no query. -/
inductive CompileError
  | graph (error : Graph.Error)
  /-- The reports contain errors. -/
  | failed (diagnostics : Diagnostics)
  deriving DecidableEq, Repr

/-- The text of an error. -/
def CompileError.message : CompileError → String
  | graph error => error.message
  | failed diagnostics =>
    "query compilation failed with " ++ toString diagnostics.errorCount ++ " errors"

/-- A compiled query. -/
structure Compiled where
  /-- The expression; none for an empty graph. -/
  expr : Option Expr
  text : String
  labels : LabelTable
  /-- Reports made on the way, none of them an error. -/
  diagnostics : Diagnostics
  palette : Palette
  deriving Inhabited

namespace Compiled

/-- The query of an empty graph. -/
def empty (config : Config) : Compiled := ⟨none, "", .empty, [], config.palette⟩

/-- The reports in the colours that were asked for. -/
def renderDiagnostics (c : Compiled) : String := c.diagnostics.render c.palette

end Compiled

namespace Graph

variable [Pattern.Dialect]

/-- Everything that is reported about a graph, given the nodes that the query has reached. -/
def diagnose (g : Graph) (config : Config) (labels : LabelTable) (reached : List NodeId) :
    Diagnostics :=
  Query.checkLabels labels ++ (if config.groupLabels then Query.checkGroupLabels g else [])
    ++ Query.checkReached g config.unreachable reached

/-- Compile a query from a start node on. -/
def compileFrom (g : Graph) (start : NodeId) (config : Config) : Except CompileError Compiled :=
  if g.nodes.contains start then
    let labels := LabelTable.assign g config.labelStem
    match Query.traverse g labels config.groupLabels start with
    | .error fault => .error (.graph (.corrupt fault))
    | .ok (expr, seen) =>
      let diagnostics := g.diagnose config labels seen.nodes
      if diagnostics.hasErrors then .error (.failed diagnostics)
      else .ok ⟨some expr, expr.text, labels, diagnostics, config.palette⟩
  else .error (.graph (.unknownNode start))

/-- Compile a query from the head on; an empty graph has the empty query. -/
def compile (g : Graph) (config : Config) : Except CompileError Compiled :=
  match g.head with
  | some head => g.compileFrom head config
  | none => .ok (.empty config)

/-- The query of a graph, with the usual options. -/
def toQuery (g : Graph) : Except CompileError String := (g.compile {}).map Compiled.text

end Graph

end TreeQuery
