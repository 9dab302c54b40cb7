set_option autoImplicit false

/-! # Palettes

The escape sequences with which dumps and diagnostics are coloured. A palette without colours holds
empty texts, so printing is the same with and without it. -/

namespace TreeQuery

/-- Escape sequences by role: blue for handles and labels, green for patterns, yellow and red for
warnings and errors, dim for structure, and the one that ends a colour. -/
structure Palette where
  blue : String
  green : String
  yellow : String
  red : String
  dim : String
  reset : String
  deriving DecidableEq, Repr

namespace Palette

/-- The palette without colours. -/
def plain : Palette := ⟨"", "", "", "", "", ""⟩

instance : Inhabited Palette := ⟨plain⟩

/-- The palette of the sixteen standard terminal colours. -/
def ansi : Palette where
  blue := "\x1b[34m"
  green := "\x1b[32m"
  yellow := "\x1b[33m"
  red := "\x1b[31m"
  dim := "\x1b[2m"
  reset := "\x1b[0m"

/-- Colours, or none. -/
def ofBool (enabled : Bool) : Palette := if enabled then ansi else plain

/-- Whether the palette can end a colour. -/
def isEnabled (p : Palette) : Bool := !p.reset.isEmpty

/-- A text in one of the palette's colours. -/
def paint (p : Palette) (colour : String) (text : String) : String := colour ++ text ++ p.reset

end Palette

end TreeQuery
