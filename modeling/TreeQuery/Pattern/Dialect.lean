set_option autoImplicit false

/-! # Dialects of patterns

Graphs carry patterns as they are given, and queries repeat them. The one thing that is asked about
a pattern is how many capture groups it has, and that depends on the dialect it is written in. -/

namespace TreeQuery.Pattern

/-- A dialect in which patterns are written. It is inferred, so that the parts of a compilation do
not pass on what only the named groups depend on. -/
class Dialect where
  /-- The number of capture groups of a pattern, if it is valid. -/
  captureCount : String → Option Nat

end TreeQuery.Pattern
