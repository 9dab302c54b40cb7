import TreeQuery.Graph.Basic

set_option autoImplicit false

/-! # Label tables

Before a query is written every node gets a label: its own if it has one, otherwise a generated one,
which is a stem followed by a number. The numbers run upwards, and those whose label some node has
taken as its own are left out; so a generated label never clashes, whatever the stem is. -/

namespace TreeQuery

/-- The label of a node. -/
structure Label where
  name : String
  /-- The label was generated, not given by the user. -/
  generated : Bool
  deriving DecidableEq, Repr, Inhabited

/-- The labels of the nodes of a graph, in the order of the nodes. -/
abbrev LabelTable := OrderedMap NodeId Label

namespace LabelTable

/-- The generated label with a number. -/
def generatedName (stem : String) (number : Nat) : String := stem ++ toString number

/-- The least number from a given one on whose label is free. Among as many numbers as there are
taken labels, and one more, there is a free one. -/
def freeNumber (taken : List String) (stem : String) (start : Nat) : Nat :=
  start + ((List.range' start taken.length).takeWhile fun n => generatedName stem n ∈ taken).length

/-- Label nodes in order, given the least number that has not been tried. -/
def label (taken : List String) (stem : String) : Nat → List (NodeId × Node) → List (NodeId × Label)
  | _, [] => []
  | start, (id, node) :: rest =>
    if node.hasLabel then (id, ⟨node.label, false⟩) :: label taken stem start rest
    else
      let number := freeNumber taken stem start
      (id, ⟨generatedName stem number, true⟩) :: label taken stem (number + 1) rest

theorem map_fst_label (taken : List String) (stem : String) (start : Nat)
    (nodes : List (NodeId × Node)) :
    (label taken stem start nodes).map Prod.fst = nodes.map Prod.fst := by
  induction nodes generalizing start with
  | nil => rfl
  | cons n rest ih =>
    obtain ⟨id, node⟩ := n
    unfold label
    split <;> simp [ih]

/-- The labels that users have given. -/
def userLabels (g : Graph) : List String :=
  (g.nodes.entries.filter fun e => e.2.hasLabel).map fun e => e.2.label

/-- The labels of all nodes of a graph. -/
def assign (g : Graph) (stem : String) : LabelTable :=
  ⟨label (userLabels g) stem 0 g.nodes.entries, by
    rw [map_fst_label]
    exact g.nodes.nodup_keys⟩

/-! ## Queries -/

/-- The name of a node's label. -/
def name? (t : LabelTable) (id : NodeId) : Option String := (t.get? id).map Label.name

/-- Whether a node has a generated label. -/
def isGenerated (t : LabelTable) (id : NodeId) : Bool := (t.get? id).any Label.generated

/-- The name of the label of a node that has to have one. -/
def require (t : LabelTable) (id : NodeId) : Except Graph.Fault String :=
  match t.name? id with
  | some name => .ok name
  | none => .error (.missingLabel id)

/-- The nodes that carry a name, in order. -/
def carriers (t : LabelTable) (name : String) : List NodeId :=
  (t.entries.filter fun e => e.2.name = name).map Prod.fst

/-- The names that several nodes carry, by their first carriers, with all their carriers. -/
def duplicates (t : LabelTable) : List (String × List NodeId) :=
  ((t.entries.map fun e => e.2.name).eraseDups.map fun name => (name, t.carriers name)).filter
    fun d => 1 < d.2.length

end LabelTable

end TreeQuery
