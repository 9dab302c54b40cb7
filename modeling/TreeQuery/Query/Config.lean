import TreeQuery.Palette

set_option autoImplicit false

/-! # Options of a compilation -/

namespace TreeQuery

/-- What is done about nodes that the query does not reach. They never become part of it. -/
inductive UnreachablePolicy
  /-- Nothing is said about them. -/
  | ignore
  /-- Each is reported with a warning. -/
  | warn
  /-- Each is reported with an error, and there is no query. -/
  | error
  deriving DecidableEq, Repr, Inhabited

/-- The options of a compilation. -/
structure Config where
  unreachable : UnreachablePolicy := .warn
  /-- The stem of generated labels. -/
  labelStem : String := "___g"
  /-- Named capture groups are written behind the patterns. -/
  groupLabels : Bool := true
  /-- The colours in which the diagnostics are rendered. -/
  palette : Palette := .plain
  deriving DecidableEq, Repr, Inhabited

end TreeQuery
