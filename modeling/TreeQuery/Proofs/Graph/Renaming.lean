import Mathlib.Logic.Embedding.Basic
import TreeQuery.Proofs.Except
import TreeQuery.Proofs.Graph.Change
import TreeQuery.Proofs.Query.Mirror

set_option autoImplicit false

/-! # Graphs with other handles

A `Renaming` gives other handles to nodes and relations, different ones to different ones. It is
carried through everything that holds handles: maps, nodes, graphs, errors. A look-up under the new
name finds what the look-up under the old name has found, renamed (`OrderedMap.get?_rename`), and
every change of a map can be made before or after its keys are renamed. -/

namespace TreeQuery

/-- Other handles, different ones for different nodes and for different relations. -/
structure Renaming where
  node : NodeId ↪ NodeId
  relation : RelationId ↪ RelationId

/-! ## Maps -/

namespace OrderedMap

variable {κ κ' α β : Type} (f : κ ↪ κ') (h : α → β)

/-- The map with other keys and other values, in the same order. -/
def rename (m : OrderedMap κ α) : OrderedMap κ' β :=
  ⟨m.entries.map (Prod.map f h), by
    have hkeys : (m.entries.map (Prod.map f h)).map Prod.fst = (m.entries.map Prod.fst).map f := by
      simp [Function.comp_def]
    rw [hkeys]
    exact m.nodup_keys.map f.injective⟩

@[simp] theorem entries_rename (m : OrderedMap κ α) :
    (m.rename f h).entries = m.entries.map (Prod.map f h) := rfl

@[simp] theorem size_rename (m : OrderedMap κ α) : (m.rename f h).size = m.size :=
  List.length_map ..

theorem keys_rename (m : OrderedMap κ α) : (m.rename f h).keys = m.keys.map f := by
  rw [keys, keys, entries_rename, List.map_map, List.map_map]
  rfl

@[simp] theorem mem_keys_rename {m : OrderedMap κ α} {k : κ} :
    f k ∈ (m.rename f h).keys ↔ k ∈ m.keys := by
  rw [keys_rename, List.mem_map_of_injective f.injective]

variable {f h}

theorem rename_mapValues {u : κ → α → α} {u' : κ' → β → β} (hu : ∀ k v, h (u k v) = u' (f k) (h v))
    (m : OrderedMap κ α) : (m.mapValues u).rename f h = (m.rename f h).mapValues u' := by
  ext1
  simp [Function.comp_def, Prod.map, hu]

theorem rename_filter {p : κ → α → Bool} {p' : κ' → β → Bool} (hp : ∀ k v, p' (f k) (h v) = p k v)
    (m : OrderedMap κ α) : (m.filter p).rename f h = (m.rename f h).filter p' := by
  ext1
  simp [List.filter_map, Function.comp_def, hp]

variable [DecidableEq κ] [DecidableEq κ'] (f h)

@[simp] theorem get?_rename (m : OrderedMap κ α) (k : κ) :
    (m.rename f h).get? (f k) = (m.get? k).map h := by
  have hkey : ((fun e : κ' × β => decide (e.1 = f k)) ∘ Prod.map f h) =
      fun e => decide (e.1 = k) := by
    funext e
    simp
  rw [get?, get?, entries_rename, List.find?_map, hkey, Option.map_map, Option.map_map]
  rfl

@[simp] theorem contains_rename (m : OrderedMap κ α) (k : κ) :
    (m.rename f h).contains (f k) = m.contains k := by
  rw [contains, contains, get?_rename, Option.isSome_map]

variable {f h}

theorem rename_modify {u : α → α} {u' : β → β} (hu : ∀ v, h (u v) = u' (h v)) (m : OrderedMap κ α)
    (k : κ) : (m.modify k u).rename f h = (m.rename f h).modify (f k) u' := by
  refine rename_mapValues (fun k' v => ?_) m
  simp only [f.apply_eq_iff_eq]
  split
  · exact hu v
  · rfl

theorem rename_erase (m : OrderedMap κ α) (k : κ) :
    (m.erase k).rename f h = (m.rename f h).erase (f k) :=
  rename_filter (fun k' _ => by simp) m

theorem rename_insert (m : OrderedMap κ α) (k : κ) (v : α) :
    (m.insert k v).rename f h = (m.rename f h).insert (f k) (h v) := by
  by_cases hk : m.get? k = none
  · have hk' : (m.rename f h).get? (f k) = none := by rw [get?_rename, hk, Option.map_none]
    ext1
    rw [entries_rename, entries_insert_of_get?_eq_none hk, entries_insert_of_get?_eq_none hk',
      List.map_append]
    rfl
  · have hk' : (m.rename f h).get? (f k) ≠ none := by simpa using hk
    unfold OrderedMap.insert
    rw [dif_neg hk, dif_neg hk']
    apply rename_modify
    exact fun _ => rfl

end OrderedMap

/-! ## Nodes, errors and graphs -/

/-- A node with its relations renamed. -/
def Node.rename (σ : Renaming) (node : Node) : Node :=
  { node with
    incoming := node.incoming.map σ.relation
    outgoing := node.outgoing.map σ.relation }

namespace Graph

/-- What was not found, under its other name. -/
def Fault.rename (σ : Renaming) : Fault → Fault
  | missingNode id => missingNode (σ.node id)
  | missingRelation id => missingRelation (σ.relation id)
  | missingLabel id => missingLabel (σ.node id)
  | foreignRelation relation node => foreignRelation (σ.relation relation) (σ.node node)
  | tooDeep id => tooDeep (σ.node id)

/-- A refusal with renamed handles. -/
def Error.rename (σ : Renaming) : Error → Error
  | unknownNode id => unknownNode (σ.node id)
  | unknownRelation id => unknownRelation (σ.relation id)
  | selfRelation id => selfRelation (σ.node id)
  | headDeletion id => headDeletion (σ.node id)
  | groupIndexOutOfRange index max => groupIndexOutOfRange index max
  | corrupt fault => corrupt (fault.rename σ)

/-- A graph has the nodes, the relations and the head of another under other names, and all orders
are kept. The numbers of the next handles are not part of it. -/
structure Renames (g : Graph) (σ : Renaming) (g' : Graph) : Prop where
  nodes : g'.nodes = g.nodes.rename σ.node (Node.rename σ)
  relations : g'.relations = g.relations.rename σ.relation (Relation.rename σ.node)
  head : g'.head = g.head.map σ.node

/-- The graph under other names, with the numbers of the next handles as they are. -/
def rename (σ : Renaming) (g : Graph) : Graph :=
  { g with
    nodes := g.nodes.rename σ.node (Node.rename σ)
    relations := g.relations.rename σ.relation (Relation.rename σ.node)
    head := g.head.map σ.node }

theorem renames_rename (σ : Renaming) (g : Graph) : g.Renames σ (g.rename σ) := ⟨rfl, rfl, rfl⟩

variable {σ : Renaming} {g g' : Graph}

namespace Renames

theorem get?_nodes (h : g.Renames σ g') (id : NodeId) :
    g'.nodes.get? (σ.node id) = (g.nodes.get? id).map (Node.rename σ) := by
  rw [h.nodes, OrderedMap.get?_rename]

theorem get?_relations (h : g.Renames σ g') (r : RelationId) :
    g'.relations.get? (σ.relation r) = (g.relations.get? r).map (Relation.rename σ.node) := by
  rw [h.relations, OrderedMap.get?_rename]

theorem mem_keys_nodes (h : g.Renames σ g') {id : NodeId} :
    σ.node id ∈ g'.nodes.keys ↔ id ∈ g.nodes.keys := by
  rw [h.nodes, OrderedMap.mem_keys_rename]

theorem requireNode (h : g.Renames σ g') (id : NodeId) :
    g'.requireNode (σ.node id) = carry (Fault.rename σ) (Node.rename σ) (g.requireNode id) := by
  rw [Graph.requireNode, Graph.requireNode, h.get?_nodes]
  cases g.nodes.get? id <;> rfl

theorem requireRelation (h : g.Renames σ g') (r : RelationId) :
    g'.requireRelation (σ.relation r) =
      carry (Fault.rename σ) (Relation.rename σ.node) (g.requireRelation r) := by
  rw [Graph.requireRelation, Graph.requireRelation, h.get?_relations]
  cases g.relations.get? r <;> rfl

end Renames

end Graph

end TreeQuery
