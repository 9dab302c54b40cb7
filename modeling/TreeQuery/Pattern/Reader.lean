import TreeQuery.Pattern.Class
import TreeQuery.Pattern.Count
import TreeQuery.Pattern.Dialect
import TreeQuery.Pattern.Opening

set_option autoImplicit false

/-! # Reading patterns

A pattern is read from left to right, with the groups that are open kept on a stack. It is valid if
every part is well formed, every group is closed, no name is given twice and it is not nested too
deep. -/

namespace TreeQuery.Pattern

/-- A group that is open: what was read before it at the enclosing level. -/
structure OpenGroup where
  capturing : Bool
  /-- The flags outside, which hold again behind the group. -/
  flags : Flags
  items : List Shape
  branches : List Shape
  deriving Inhabited, Repr

/-- How far reading has come. -/
structure Progress where
  flags : Flags := {}
  /-- The names of groups so far. -/
  names : List (List Char) := []
  /-- The items of the branch that is being read, latest first. -/
  items : List Shape := []
  /-- The branches before it at its level, latest first. -/
  branches : List Shape := []
  /-- The groups that are open, innermost first. -/
  groups : List OpenGroup := []
  deriving Inhabited, Repr

namespace Progress

/-- Add an item. -/
def push (p : Progress) (item : Shape) : Progress := { p with items := item :: p.items }

/-- Repeat the latest item, which must be one that can be repeated. -/
def repeatLast (p : Progress) (limit : Option Nat) : Option Progress :=
  match p.items with
  | [] => none
  | .directive :: _ => none
  | item :: items => some { p with items := .repetition item limit :: items }

/-- End the branch. -/
def branch (p : Progress) : Progress :=
  { p with branches := Shape.ofItems p.items.reverse :: p.branches, items := [] }

/-- The shape of what was read at the innermost level. -/
def level (p : Progress) : Shape :=
  if p.branches.isEmpty then Shape.ofItems p.items.reverse
  else .alternation p.branch.branches.reverse

/-- Open a group. -/
def enter (p : Progress) (capturing : Bool) (flags : Flags) : Progress :=
  { p with
    flags
    items := []
    branches := []
    groups := ⟨capturing, p.flags, p.items, p.branches⟩ :: p.groups }

/-- Go on behind an opening parenthesis; a name must be new. -/
def «open» (p : Progress) : Opening → Option Progress
  | .directive flags => some { p.push .directive with flags }
  | .plain flags => some (p.enter false flags)
  | .capture none => some (p.enter true p.flags)
  | .capture (some name) =>
    if name ∈ p.names then none else some { p.enter true p.flags with names := name :: p.names }

/-- Close the innermost group. -/
def close (p : Progress) : Option Progress :=
  match p.groups with
  | [] => none
  | group :: groups =>
    some { p with
      flags := group.flags
      items := .group group.capturing p.level :: group.items
      branches := group.branches
      groups }

end Progress

/-- Read one part of a pattern. -/
def readPart (p : Progress) : List Char → Option (Progress × List Char)
  | [] => none
  | '(' :: cs => do
    let (opening, rest) ← Opening.read p.flags cs
    return (← p.open opening, rest)
  | ')' :: cs => p.close.map (·, cs)
  | '|' :: cs => some (p.branch, cs)
  | '[' :: cs => do
    let (inner, rest) ← Class.read p.flags cs
    return (p.push (.characterClass inner), rest)
  | '?' :: cs => (p.repeatLast (some 1)).map (·, Count.dropLazy cs)
  | '*' :: cs | '+' :: cs => (p.repeatLast none).map (·, Count.dropLazy cs)
  | '\x7b' :: cs => do
    let (limit, rest) ← Count.read p.flags cs
    return (← p.repeatLast limit, rest)
  | '\\' :: cs => do
    let (_, rest) ← Escape.read p.flags cs
    return (p.push .atom, rest)
  | '.' :: cs => if p.flags.unicode then some (p.push .atom, cs) else none
  | _ :: cs => some (p.push .atom, cs)

/-- Read a pattern to its end. Every part takes a character at least, so the length of the text
bounds their number. -/
def readParts : Nat → Progress → List Char → Option Progress
  | 0, p, cs => if cs.isEmpty then some p else none
  | steps + 1, p, cs =>
    match p.flags.skip cs with
    | [] => some p
    | cs => do
      let (p, rest) ← readPart p cs
      readParts steps p rest

/-- How deep a pattern may be nested. -/
def depthLimit : Nat := 250

/-- The shape of a pattern, if it is valid. -/
def shape? (pattern : String) : Option Shape := do
  let p ← readParts pattern.toList.length {} pattern.toList
  if p.groups.isEmpty && p.level.depth ≤ depthLimit then return p.level else none

/-- Whether a pattern is valid. -/
def isValid (pattern : String) : Bool := (shape? pattern).isSome

/-- The number of capture groups of a pattern, if it is valid. -/
def captureCount (pattern : String) : Option Nat := (shape? pattern).map Shape.captureCount

/-- Patterns are written in the dialect that is read here, unless another one is assumed. -/
instance : Dialect := ⟨captureCount⟩

end TreeQuery.Pattern
