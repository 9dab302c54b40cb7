set_option autoImplicit false

/-! # Shapes of patterns

What is left of a pattern when the characters that it matches are forgotten: how its items are
nested and where it captures. Two things depend on the shape alone, the number of capture groups
and the depth of nesting, which is limited. -/

namespace TreeQuery.Pattern

/-- The shape of what stands between the brackets of a character class. -/
inductive ClassShape
  | empty
  /-- One character, range or named class. -/
  | single
  /-- Several items side by side. -/
  | union (items : List ClassShape)
  /-- A class in brackets of its own. -/
  | bracketed (inner : ClassShape)
  /-- Two classes joined by a set operator. -/
  | operation (left right : ClassShape)
  deriving Inhabited, Repr

namespace ClassShape

/-- The shape of some items side by side: one alone is itself. -/
def ofItems : List ClassShape → ClassShape
  | [] => empty
  | [item] => item
  | items => union items

mutual

/-- How deep the shape is nested. -/
def depth : ClassShape → Nat
  | empty => 0
  | single => 0
  | union items => depthOf items + 1
  | bracketed inner => depth inner + 1
  | operation left right => max (depth left) (depth right) + 1

/-- How deep the deepest of some shapes is nested. -/
def depthOf : List ClassShape → Nat
  | [] => 0
  | item :: items => max (depth item) (depthOf items)

end

end ClassShape

/-- The shape of a pattern. -/
inductive Shape
  | empty
  /-- An item without parts: a character, an escape, a class without brackets, an assertion. -/
  | atom
  /-- A change of flags, which matches nothing and cannot be repeated. -/
  | directive
  | characterClass (inner : ClassShape)
  /-- An item repeated, up to a limit if there is one. -/
  | repetition (item : Shape) (limit : Option Nat)
  | group (capturing : Bool) (inner : Shape)
  | concatenation (items : List Shape)
  | alternation (branches : List Shape)
  deriving Inhabited, Repr

namespace Shape

/-- The shape of some items one after another: one alone is itself. -/
def ofItems : List Shape → Shape
  | [] => empty
  | [item] => item
  | items => concatenation items

mutual

/-- How deep the shape is nested. -/
def depth : Shape → Nat
  | empty => 0
  | atom => 0
  | directive => 0
  | characterClass inner => inner.depth + 1
  | repetition item _ => depth item + 1
  | group _ inner => depth inner + 1
  | concatenation items => depthOf items + 1
  | alternation branches => depthOf branches + 1

/-- How deep the deepest of some shapes is nested. -/
def depthOf : List Shape → Nat
  | [] => 0
  | item :: items => max (depth item) (depthOf items)

end

mutual

/-- The number of groups that capture. An item that is repeated no time at all captures nothing. -/
def captureCount : Shape → Nat
  | empty => 0
  | atom => 0
  | directive => 0
  | characterClass _ => 0
  | repetition item limit => if limit = some 0 then 0 else captureCount item
  | group capturing inner => (if capturing then 1 else 0) + captureCount inner
  | concatenation items => captureCountOf items
  | alternation branches => captureCountOf branches

/-- The number of groups that capture in some shapes. -/
def captureCountOf : List Shape → Nat
  | [] => 0
  | item :: items => captureCount item + captureCountOf items

end

end Shape

end TreeQuery.Pattern
