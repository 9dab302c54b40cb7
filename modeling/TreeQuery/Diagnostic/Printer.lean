import TreeQuery.Diagnostic.Basic
import TreeQuery.Palette

set_option autoImplicit false

/-! # Printing diagnostics

Each report takes a line, and each of its notes and hints another, indented one. The palette decides
on colours only. -/

namespace TreeQuery

/-- The colour of a severity. -/
def Palette.ofSeverity (p : Palette) : Severity → String
  | .error => p.red
  | .warning => p.yellow

/-- A note on a line of its own. -/
def Diagnostic.Note.render (p : Palette) (n : Diagnostic.Note) : String :=
  "\n  " ++ p.paint p.dim "note" ++ ": " ++ p.paint p.blue n.node.text ++ ": " ++ n.message

/-- A hint on a line of its own. -/
def Diagnostic.renderHint (p : Palette) (hint : String) : String :=
  "\n  " ++ p.paint p.dim "help" ++ ": " ++ hint

/-- A report with its notes and hints. -/
def Diagnostic.render (p : Palette) (d : Diagnostic) : String :=
  p.paint (p.ofSeverity d.severity) d.severity.text ++ ": " ++ p.paint p.blue d.node.text ++ ": "
    ++ d.message ++ String.join (d.notes.map (·.render p))
    ++ String.join (d.hints.map (Diagnostic.renderHint p))

/-- All reports, separated by line breaks. -/
def Diagnostics.render (p : Palette) (ds : Diagnostics) : String :=
  "\n".intercalate (ds.map (Diagnostic.render p))

end TreeQuery
