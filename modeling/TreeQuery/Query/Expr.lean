import TreeQuery.Handle

set_option autoImplicit false

/-! # Query expressions

A compiled query is a tree. The first mention of a node carries its pattern, its label and a clause
for each relation read from it; a later mention only refers back to the label. -/

namespace TreeQuery

/-- A relation read from a node to a target. -/
structure Clause (ε : Type) where
  relation : RelationId
  operator : String
  target : ε
  deriving DecidableEq, Repr

/-- A mention of a node. -/
inductive Expr
  /-- The node that an earlier mention has given the label. -/
  | backRef (node : NodeId) (label : String)
  /-- The first mention. The named capture groups are given by their indices, which count from
  zero. -/
  | define (node : NodeId) (pattern : String) (groups : List (Nat × String)) (label : String)
    (clauses : List (Clause Expr))
  deriving Inhabited, Repr

namespace Expr

/-- The node that is mentioned. -/
def node : Expr → NodeId
  | backRef node _ => node
  | define node _ _ _ _ => node

/-- The label of the node that is mentioned. -/
def label : Expr → String
  | backRef _ label => label
  | define _ _ _ label _ => label

/-! ## Walks, in pre-order -/

mutual

/-- The labels that are given. -/
def definitions : Expr → List String
  | backRef _ _ => []
  | define _ _ _ label clauses => label :: definitionsOf clauses

/-- The labels that are given in the targets of clauses. -/
def definitionsOf : List (Clause Expr) → List String
  | [] => []
  | ⟨_, _, target⟩ :: rest => definitions target ++ definitionsOf rest

end

mutual

/-- The labels that are referred back to. -/
def backReferences : Expr → List String
  | backRef _ label => [label]
  | define _ _ _ _ clauses => backReferencesOf clauses

/-- The labels that are referred back to in the targets of clauses. -/
def backReferencesOf : List (Clause Expr) → List String
  | [] => []
  | ⟨_, _, target⟩ :: rest => backReferences target ++ backReferencesOf rest

end

mutual

/-- The number of clauses. -/
def clauseCount : Expr → Nat
  | backRef _ _ => 0
  | define _ _ _ _ clauses => clauseCountOf clauses

/-- The number of clauses of a list, those in the targets included. -/
def clauseCountOf : List (Clause Expr) → Nat
  | [] => 0
  | ⟨_, _, target⟩ :: rest => 1 + clauseCount target + clauseCountOf rest

end

/-! ## Text -/

/-- A named capture group behind a pattern. In the query language groups count from one. -/
def groupText (group : Nat × String) : String :=
  "#" ++ toString (group.1 + 1) ++ "%" ++ group.2

mutual

/-- The expression as text. -/
def text : Expr → String
  | backRef _ label => "=" ++ label
  | define _ pattern groups label clauses =>
    pattern ++ String.join (groups.map groupText) ++ "=" ++ label ++ clausesText clauses

/-- The clauses behind a first mention as text. -/
def clausesText : List (Clause Expr) → String
  | [] => ""
  | ⟨_, operator, target⟩ :: rest =>
    " " ++ operator ++ " (" ++ text target ++ ")" ++ clausesText rest

end

/-! ## Outlines -/

/-- A mention with its place in the tree. -/
structure Mention where
  depth : Nat
  /-- The relation and the operator that lead to the mention, unless it is the root. -/
  via : Option (RelationId × String)
  expr : Expr
  deriving Inhabited, Repr

mutual

/-- All mentions in an expression, given the place of the expression. -/
def mentions (depth : Nat) (via : Option (RelationId × String)) : Expr → List Mention
  | backRef node label => [⟨depth, via, .backRef node label⟩]
  | define node pattern groups label clauses =>
    ⟨depth, via, .define node pattern groups label clauses⟩ :: mentionsOf (depth + 1) clauses

/-- All mentions in the targets of clauses. -/
def mentionsOf (depth : Nat) : List (Clause Expr) → List Mention
  | [] => []
  | ⟨relation, operator, target⟩ :: rest =>
    mentions depth (some (relation, operator)) target ++ mentionsOf depth rest

end

/-- The outline of an expression: all mentions with their places. -/
def outline (e : Expr) : List Mention := mentions 0 none e

end Expr

end TreeQuery
