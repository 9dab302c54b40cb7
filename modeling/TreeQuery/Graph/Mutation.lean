import TreeQuery.Graph.Basic

set_option autoImplicit false

/-! # Changing graphs

Every change of a graph answers or fails, and leaves a graph in either case: what was done before a
failure stays done. Deleting a node deletes its relations one by one, and reversing a relation
deletes it and creates another; that no failure can come in between is a fact about graphs, not a
property of these definitions. -/

namespace TreeQuery.Graph

/-- A change of a graph with an answer. -/
abbrev Mutation (α : Type) := ExceptT Error (StateM Graph) α

/-- What a change answers, and the graph it leaves. -/
def Mutation.on {α : Type} (m : Mutation α) (g : Graph) : Except Error α × Graph := m.run g

/-! ## Parts of graphs -/

/-- Replace a node, which has to be there. -/
def updateNode (id : NodeId) (f : Node → Node) : Mutation Unit := do
  let g ← get
  if g.nodes.contains id then set { g with nodes := g.nodes.modify id f }
  else throw (.corrupt (.missingNode id))

/-- Refuse unless a node is there. -/
def demandNode (id : NodeId) : Mutation Unit := do
  unless (← get).nodes.contains id do throw (.unknownNode id)

/-! ## Nodes -/

/-- Add a node. The first node of an empty graph becomes its head. -/
def createNode (pattern : String := matchAny) : Mutation NodeId := do
  let g ← get
  let id : NodeId := ⟨g.nextNode⟩
  set { g with
    nextNode := g.nextNode + 1
    nodes := g.nodes.insert id { pattern }
    head := g.head <|> some id }
  return id

/-- Strike a node and, if it was the head, let the oldest remaining node be the head. -/
def dropNode (id : NodeId) (g : Graph) : Graph :=
  let nodes := g.nodes.erase id
  { g with nodes, head := if g.head = some id then nodes.keys.head? else g.head }

/-- Replace what is kept of a node, if it is there. -/
def modifyNode (id : NodeId) (f : Node → Node) (g : Graph) : Graph :=
  { g with nodes := g.nodes.modify id f }

/-- Change a node; none is the answer if it is not there. -/
def editNode (id : NodeId) (e : Node.Edit) : Mutation (Option Node) := do
  let g ← get
  match g.nodes.get? id with
  | none => return none
  | some node =>
    let node ← ExceptT.mk (pure (node.edit e))
    set (g.modifyNode id fun _ => node)
    return some node

/-- Make a node the head. -/
def setHead (id : NodeId) : Mutation Unit := do
  demandNode id
  modify fun g => { g with head := some id }

/-- Delete all nodes and relations. The numbers of the next handles stay, so that old handles stay
dead. -/
def clear : Mutation Unit :=
  modify fun g => { g with nodes := .empty, relations := .empty, head := none }

/-! ## Relations -/

/-- Join two different nodes. -/
def createRelation (source target : NodeId) (descriptor : Relation.Descriptor := {}) :
    Mutation RelationId := do
  demandNode source
  demandNode target
  if source = target then throw (.selfRelation source)
  let id : RelationId := ⟨(← get).nextRelation⟩
  modify fun g => { g with nextRelation := g.nextRelation + 1 }
  updateNode source (·.addOutgoing id)
  updateNode target (·.addIncoming id)
  modify fun g => { g with relations := g.relations.insert id ⟨source, target, descriptor⟩ }
  return id

/-- Delete a relation and strike it at both of its ends. -/
def deleteRelation (id : RelationId) : Mutation Relation := do
  match (← get).relations.get? id with
  | none => throw (.unknownRelation id)
  | some relation =>
    modify fun g => { g with relations := g.relations.erase id }
    updateNode relation.source (·.dropOutgoing id)
    updateNode relation.target (·.dropIncoming id)
    return relation

/-- Delete relations one after another. -/
def deleteRelations : List RelationId → Mutation Unit
  | [] => return ()
  | id :: ids => do
    let _ ← deleteRelation id
    deleteRelations ids

/-- Turn a relation around: it is deleted, and a new one with its descriptor is created from its
target to its source. -/
def reverseRelation (id : RelationId) : Mutation RelationId := do
  let old ← deleteRelation id
  createRelation old.target old.source old.descriptor

/-- Replace what is kept of a relation, if it is there. -/
def modifyRelation (id : RelationId) (f : Relation → Relation) (g : Graph) : Graph :=
  { g with relations := g.relations.modify id f }

/-- Change the descriptor of a relation; none is the answer if the relation is not there. -/
def editRelation (id : RelationId) (e : Relation.Descriptor.Edit) : Mutation (Option Relation) := do
  let g ← get
  match g.relations.get? id with
  | none => return none
  | some relation =>
    let relation := { relation with descriptor := relation.descriptor.edit e }
    set (g.modifyRelation id fun _ => relation)
    return some relation

/-! ## Deleting nodes -/

/-- Delete a node and every relation that touches it; the head only by force. -/
def removeNode (id : NodeId) (force : Bool) : Mutation Node := do
  let g ← get
  match g.nodes.get? id with
  | none => throw (.unknownNode id)
  | some node =>
    if g.head = some id && !force then throw (.headDeletion id)
    deleteRelations (node.incoming ++ node.outgoing)
    -- The node lists no relations any more, and this is how it is handed out.
    match (← get).nodes.get? id with
    | none => throw (.unknownNode id)
    | some removed =>
      modify (dropNode id)
      return removed

/-- Delete a node that is not the head. -/
def deleteNode (id : NodeId) : Mutation Node := removeNode id false

/-- Delete a node even if it is the head. -/
def forceDeleteNode (id : NodeId) : Mutation Node := removeNode id true

end TreeQuery.Graph
