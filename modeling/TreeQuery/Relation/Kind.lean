set_option autoImplicit false

/-! # Kinds of relation

The closed set of structural relations that can hold between two nodes of a tree, with the name
shown in menus, the key used when a kind is exchanged, and the traits by which kinds are grouped. -/

namespace TreeQuery.Relation

/-- A structural relation between two tree nodes, in menu order. -/
inductive Kind
  | descendant
  | directDescendant
  | nthChild
  | nthToLastChild
  | precedes
  | immediatelyPrecedes
  | onlyDescendant
  | unaryDescendant
  | leftmostDescendant
  | rightmostDescendant
  | sibling
  | leftSibling
  | immediateLeftSibling
  | descendantVia
  | precedesVia
  deriving DecidableEq, Repr, Inhabited

namespace Kind

/-- All kinds in menu order. -/
def all : List Kind :=
  [descendant, directDescendant, nthChild, nthToLastChild, precedes, immediatelyPrecedes,
    onlyDescendant, unaryDescendant, leftmostDescendant, rightmostDescendant, sibling, leftSibling,
    immediateLeftSibling, descendantVia, precedesVia]

theorem mem_all (k : Kind) : k ∈ all := by cases k <;> decide

/-- The name shown in menus. -/
def name : Kind → String
  | descendant => "Descendant of"
  | directDescendant => "Direct Descendant of"
  | nthChild => "Nth child of"
  | nthToLastChild => "Nth-to-last child of"
  | precedes => "Precedes"
  | immediatelyPrecedes => "Immediately Precedes"
  | onlyDescendant => "Only descendant of"
  | unaryDescendant => "Descendant of (via unary tree)"
  | leftmostDescendant => "Left-most Descendant of"
  | rightmostDescendant => "Right-most Descendant of"
  | sibling => "Sibling of"
  | leftSibling => "Left Sibling of"
  | immediateLeftSibling => "Immediate Left Sibling of"
  | descendantVia => "Descendant via"
  | precedesVia => "Precedes via"

/-- The key that stands for the kind in exchanged data. -/
def key : Kind → String
  | descendant => "descendant"
  | directDescendant => "direct_descendant"
  | nthChild => "nth_child"
  | nthToLastChild => "nth_to_last_child"
  | precedes => "precedes"
  | immediatelyPrecedes => "immediately_precedes"
  | onlyDescendant => "only_descendant"
  | unaryDescendant => "unary_descendant"
  | leftmostDescendant => "leftmost_descendant"
  | rightmostDescendant => "rightmost_descendant"
  | sibling => "sibling"
  | leftSibling => "left_sibling"
  | immediateLeftSibling => "immediate_left_sibling"
  | descendantVia => "descendant_via"
  | precedesVia => "precedes_via"

/-- The kind that a key stands for. -/
def ofKey? (s : String) : Option Kind := all.find? fun k => k.key = s

theorem ofKey?_key (k : Kind) : ofKey? k.key = some k := by cases k <;> decide

theorem key_of_ofKey? {s : String} {k : Kind} (h : ofKey? s = some k) : k.key = s := by
  simpa using List.find?_some h

/-! ## Traits -/

/-- The kind uses the number argument. -/
def hasNumberArg : Kind → Bool
  | nthChild | nthToLastChild => true
  | _ => false

/-- The kind uses the via pattern. -/
def hasViaArg : Kind → Bool
  | descendantVia | precedesVia => true
  | _ => false

/-- The kind singles out one edge of the subtree. -/
def isDirectional : Kind → Bool
  | leftmostDescendant | rightmostDescendant => true
  | _ => false

/-- The kind is written by doubling the symbol of its immediate counterpart. -/
def requiresDoubleSymbol : Kind → Bool
  | descendant | precedes | unaryDescendant | sibling => true
  | _ => false

/-- The kind asks for an only child. -/
def isOnlyType : Kind → Bool
  | onlyDescendant | unaryDescendant => true
  | _ => false

/-- The kind orders two nodes by precedence. -/
def isPrecedesType : Kind → Bool
  | precedes | immediatelyPrecedes | precedesVia => true
  | _ => false

/-- The kind relates siblings. -/
def isSiblingType : Kind → Bool
  | sibling | leftSibling | immediateLeftSibling => true
  | _ => false

/-- The kind places one node below the other. -/
def isDescendantType (k : Kind) : Bool := !k.isPrecedesType && !k.isSiblingType

end Kind

end TreeQuery.Relation
