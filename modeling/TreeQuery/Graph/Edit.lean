import TreeQuery.Graph.Mutation

set_option autoImplicit false

/-! # Histories

The changes of a graph as data, so that whole histories can be spoken of: a history is a list of
edits, and a graph is buildable if some history leads to it from the empty graph. -/

namespace TreeQuery.Graph

/-- One request to change a graph. -/
inductive Edit
  | createNode (pattern : String)
  | deleteNode (id : NodeId)
  | forceDeleteNode (id : NodeId)
  | clear
  | setHead (id : NodeId)
  | editNode (id : NodeId) (edit : Node.Edit)
  | createRelation (source target : NodeId) (descriptor : Relation.Descriptor)
  | deleteRelation (id : RelationId)
  | reverseRelation (id : RelationId)
  | editRelation (id : RelationId) (edit : Relation.Descriptor.Edit)
  deriving DecidableEq, Repr

/-- What a request answers. -/
inductive Answer
  | done
  | createdNode (id : NodeId)
  | createdRelation (id : RelationId)
  | removedNode (node : Node)
  | removedRelation (relation : Relation)
  | editedNode (node : Option Node)
  | editedRelation (relation : Option Relation)
  deriving DecidableEq, Repr

/-- The change that a request asks for. -/
def Edit.mutation : Edit → Mutation Answer
  | .createNode pattern => .createdNode <$> Graph.createNode pattern
  | .deleteNode id => .removedNode <$> Graph.deleteNode id
  | .forceDeleteNode id => .removedNode <$> Graph.forceDeleteNode id
  | .clear => (fun _ => .done) <$> Graph.clear
  | .setHead id => (fun _ => .done) <$> Graph.setHead id
  | .editNode id edit => .editedNode <$> Graph.editNode id edit
  | .createRelation source target descriptor =>
    .createdRelation <$> Graph.createRelation source target descriptor
  | .deleteRelation id => .removedRelation <$> Graph.deleteRelation id
  | .reverseRelation id => .createdRelation <$> Graph.reverseRelation id
  | .editRelation id edit => .editedRelation <$> Graph.editRelation id edit

/-- Carry out a request: its answer and the graph it leaves. -/
def perform (g : Graph) (e : Edit) : Except Error Answer × Graph := e.mutation.on g

/-- The graph after a history. -/
def replay (g : Graph) (history : List Edit) : Graph :=
  history.foldl (fun g e => (g.perform e).2) g

/-- The answers of a history, one for each request. -/
def answers (g : Graph) : List Edit → List (Except Error Answer)
  | [] => []
  | e :: es => (g.perform e).1 :: (g.perform e).2.answers es

/-- A graph that some history builds from the empty graph. -/
def Buildable (g : Graph) : Prop := ∃ history, empty.replay history = g

end TreeQuery.Graph
