import TreeQuery.Proofs.Graph.History

set_option autoImplicit false

/-! # Refused requests

`Graph.refusal?` says beforehand whether a graph refuses a request and why, without carrying it out:
it only looks at which handles are live, at the head and at the index of a capture group. A request
is refused for that reason or not at all, and a refused request leaves the graph as it was
(`WellFormed.comesTo`). So nothing is ever left half done, although deleting a node deletes its
relations one by one and reversing a relation deletes it before it creates another. -/

namespace TreeQuery

/-- Why a node refuses an edit, if it does. -/
def Node.refusal? : Node.Edit → Option Graph.Error
  | .setPattern _ | .setLabel _ => none
  | .setGroupLabel index _ =>
    if maxGroupLabels ≤ index then some (.groupIndexOutOfRange index maxGroupLabels) else none

theorem Node.edit_of_refusal?_eq_some (node : Node) {e : Node.Edit} {error : Graph.Error}
    (h : refusal? e = some error) : node.edit e = .error error := by
  cases e with
  | setPattern pattern => exact absurd h (by simp [refusal?])
  | setLabel label => exact absurd h (by simp [refusal?])
  | setGroupLabel index name =>
      simp only [refusal?, Option.ite_none_right_eq_some, Option.some.injEq] at h
      obtain ⟨hindex, rfl⟩ := h
      rw [edit, setGroupLabel, dif_neg (Nat.not_lt.2 hindex)]

theorem Node.exists_edit_of_refusal?_eq_none (node : Node) {e : Node.Edit}
    (h : refusal? e = none) : ∃ node', node.edit e = .ok node' := by
  cases e with
  | setPattern pattern => exact ⟨_, rfl⟩
  | setLabel label => exact ⟨_, rfl⟩
  | setGroupLabel index name =>
      simp only [refusal?, ite_eq_right_iff, reduceCtorEq, imp_false, Nat.not_le] at h
      rw [edit, setGroupLabel, dif_pos h]
      exact ⟨_, rfl⟩

namespace Graph

variable {g : Graph}

/-! ## Reasons -/

/-- A node is refused if it is not there. -/
def unknownNode? (g : Graph) (id : NodeId) : Option Error :=
  if id ∈ g.nodes.keys then none else some (.unknownNode id)

/-- A relation is refused if it is not there. -/
def unknownRelation? (g : Graph) (r : RelationId) : Option Error :=
  if r ∈ g.relations.keys then none else some (.unknownRelation r)

/-- Why a graph refuses a request, if it does. Of several reasons the first one counts. -/
def refusal? (g : Graph) : Edit → Option Error
  | .createNode _ | .clear | .editRelation _ _ => none
  | .deleteNode id =>
    g.unknownNode? id <|> if g.head = some id then some (.headDeletion id) else none
  | .forceDeleteNode id | .setHead id => g.unknownNode? id
  | .editNode id edit => if id ∈ g.nodes.keys then Node.refusal? edit else none
  | .createRelation source target _ =>
    g.unknownNode? source <|> g.unknownNode? target <|>
      if source = target then some (.selfRelation source) else none
  | .deleteRelation r | .reverseRelation r => g.unknownRelation? r

@[simp] theorem unknownNode?_of_mem {id : NodeId} (h : id ∈ g.nodes.keys) :
    g.unknownNode? id = none :=
  if_pos h

@[simp] theorem unknownNode?_of_not_mem {id : NodeId} (h : id ∉ g.nodes.keys) :
    g.unknownNode? id = some (.unknownNode id) :=
  if_neg h

/-! ## What requests come to -/

/-- A request is refused for a reason and leaves the graph as it was, or it is answered. -/
def ComesTo (g : Graph) (e : Edit) : Option Error → Prop
  | some error => g.perform e = (.error error, g)
  | none => ∃ answer, (g.perform e).1 = .ok answer

section Operations

variable {α : Type} {m : Mutation α} {f : α → Answer} {e : Edit}

/-- A request is refused as the operation that it asks for is. -/
theorem comesTo_some (he : e.mutation = f <$> m) {error : Error} (h : m.on g = (.error error, g)) :
    g.ComesTo e (some error) := by
  rw [ComesTo, perform, he, Mutation.on_map, h]
  rfl

theorem comesTo_none (he : e.mutation = f <$> m) {a : α} {g' : Graph} (h : m.on g = (.ok a, g')) :
    g.ComesTo e none := by
  refine ⟨f a, ?_⟩
  rw [perform, he, Mutation.on_map, h]
  rfl

/-- An operation on a relation that fails only if the relation is not there. -/
theorem comesTo_unknownRelation? (he : e.mutation = f <$> m) {r : RelationId}
    (hnone : g.relations.get? r = none → m.on g = (.error (.unknownRelation r), g))
    (hsome : ∀ relation, g.relations.get? r = some relation → ∃ a g', m.on g = (.ok a, g')) :
    g.ComesTo e (g.unknownRelation? r) := by
  rw [unknownRelation?]
  split
  · next hr =>
    obtain ⟨relation, hr⟩ := OrderedMap.mem_keys_iff.1 hr
    obtain ⟨a, g', hon⟩ := hsome relation hr
    exact comesTo_none he hon
  · next hr => exact comesTo_some he (hnone (OrderedMap.get?_eq_none_iff.2 hr))

end Operations

theorem comesTo_setHead (id : NodeId) : g.ComesTo (.setHead id) (g.refusal? (.setHead id)) := by
  have hon := on_setHead id g
  by_cases hid : id ∈ g.nodes.keys
  · rw [if_pos hid] at hon
    simpa [refusal?, hid] using comesTo_none (e := .setHead id) rfl hon
  · rw [if_neg hid] at hon
    simpa [refusal?, hid] using comesTo_some (e := .setHead id) rfl hon

theorem comesTo_editNode (id : NodeId) (edit : Node.Edit) :
    g.ComesTo (.editNode id edit) (g.refusal? (.editNode id edit)) := by
  have hon := on_editNode id edit g
  cases hn : g.nodes.get? id with
  | none =>
      rw [hn] at hon
      simpa [refusal?, OrderedMap.get?_eq_none_iff.1 hn] using
        comesTo_none (e := .editNode id edit) rfl hon
  | some node =>
      simp only [hn] at hon
      rw [refusal?, if_pos (OrderedMap.mem_keys_iff.2 ⟨node, hn⟩)]
      cases hr : Node.refusal? edit with
      | none =>
          obtain ⟨node', hedit⟩ := node.exists_edit_of_refusal?_eq_none hr
          rw [hedit] at hon
          exact comesTo_none rfl hon
      | some error =>
          rw [node.edit_of_refusal?_eq_some hr] at hon
          exact comesTo_some rfl hon

theorem comesTo_createRelation (source target : NodeId) (descriptor : Relation.Descriptor) :
    g.ComesTo (.createRelation source target descriptor)
      (g.refusal? (.createRelation source target descriptor)) := by
  have hon := on_createRelation source target descriptor g
  rw [refusal?]
  by_cases hs : source ∈ g.nodes.keys
  · by_cases ht : target ∈ g.nodes.keys
    · by_cases hne : source = target
      · rw [if_neg (not_not_intro hs), if_neg (not_not_intro ht), if_pos hne] at hon
        rw [unknownNode?_of_mem hs, unknownNode?_of_mem ht, if_pos hne]
        exact comesTo_some rfl hon
      · rw [if_neg (not_not_intro hs), if_neg (not_not_intro ht), if_neg hne] at hon
        rw [unknownNode?_of_mem hs, unknownNode?_of_mem ht, if_neg hne]
        exact comesTo_none rfl hon
    · rw [if_neg (not_not_intro hs), if_pos ht] at hon
      rw [unknownNode?_of_mem hs, unknownNode?_of_not_mem ht]
      exact comesTo_some rfl hon
  · rw [if_pos hs] at hon
    rw [unknownNode?_of_not_mem hs]
    exact comesTo_some rfl hon

namespace WellFormed

/-- The cascade of a deleted node does not fail, so only its two guards refuse. -/
theorem comesTo_removeNode (h : g.WellFormed) {e : Edit} {id : NodeId} {force : Bool}
    (he : e.mutation = .removedNode <$> removeNode id force) :
    g.ComesTo e (g.unknownNode? id <|>
      if g.head = some id && !force then some (.headDeletion id) else none) := by
  have hon := h.on_removeNode id force
  cases hn : g.nodes.get? id with
  | none =>
      rw [hn] at hon
      rw [unknownNode?_of_not_mem (OrderedMap.get?_eq_none_iff.1 hn)]
      exact comesTo_some he hon
  | some node =>
      rw [hn] at hon
      rw [unknownNode?_of_mem (OrderedMap.mem_keys_iff.2 ⟨node, hn⟩)]
      by_cases hhead : (g.head = some id && !force) = true
      · simp only [hhead, if_true] at hon ⊢
        exact comesTo_some he hon
      · simp only [hhead, Bool.false_eq_true, if_false] at hon ⊢
        exact comesTo_none he hon

/-- A request is refused for the reason that can be told beforehand, or not at all. -/
theorem comesTo (h : g.WellFormed) (e : Edit) : g.ComesTo e (g.refusal? e) := by
  cases e with
  | createNode pattern => exact comesTo_none rfl (on_createNode pattern g)
  | deleteNode id => simpa [refusal?] using h.comesTo_removeNode (e := .deleteNode id) rfl
  | forceDeleteNode id =>
      simpa [refusal?] using h.comesTo_removeNode (e := .forceDeleteNode id) rfl
  | clear => exact comesTo_none rfl (on_clear g)
  | setHead id => exact comesTo_setHead id
  | editNode id edit => exact comesTo_editNode id edit
  | createRelation source target descriptor => exact comesTo_createRelation source target descriptor
  | deleteRelation r =>
      refine comesTo_unknownRelation? (m := deleteRelation r) rfl (fun hr => ?_)
        fun relation hr => ?_
      · rw [h.on_deleteRelation, hr]
      · exact ⟨relation, g.strike [r], by rw [h.on_deleteRelation, hr]⟩
  | reverseRelation r =>
      refine comesTo_unknownRelation? (m := reverseRelation r) rfl (fun hr => ?_)
        fun relation hr => ?_
      · rw [h.on_reverseRelation, hr]
      · exact ⟨_, _, by rw [h.on_reverseRelation, hr]⟩
  | editRelation r edit =>
      have hon := on_editRelation r edit g
      cases hr : g.relations.get? r with
      | none =>
          rw [hr] at hon
          exact comesTo_none rfl hon
      | some relation =>
          rw [hr] at hon
          exact comesTo_none rfl hon

end WellFormed

/-- **Refusals.** A graph refuses a request exactly when there is a reason to, for that reason, and
then nothing has changed. -/
theorem refused_iff (hg : g.Buildable) (e : Edit) :
    (∀ error, (g.perform e).1 = .error error ↔ g.refusal? e = some error) ∧
      ∀ error, (g.perform e).1 = .error error → (g.perform e).2 = g := by
  have hcomes := hg.wellFormed.comesTo e
  cases hr : g.refusal? e with
  | none =>
      rw [hr] at hcomes
      obtain ⟨answer, hok⟩ := hcomes
      rw [hok]
      exact ⟨fun error => by simp, fun error herror => absurd herror (by simp)⟩
  | some reason =>
      rw [hr] at hcomes
      have hperform : g.perform e = (.error reason, g) := hcomes
      rw [hperform]
      exact ⟨fun error => by simp, fun _ _ => rfl⟩

/-- Two nodes, the first of them the head, and a relation between them. -/
def pair : Graph :=
  .replay .empty [.createNode "a", .createNode "b", .createRelation ⟨0⟩ ⟨1⟩ {}]

theorem buildable_pair : pair.Buildable := ⟨_, rfl⟩

/-- A deletion that is not forced leaves the head and its relation there. -/
theorem refused_pair : pair.perform (.deleteNode ⟨0⟩) = (.error (.headDeletion ⟨0⟩), pair) ∧
    ∀ error, (pair.perform (.deleteNode ⟨1⟩)).1 ≠ .error error := by
  constructor
  · obtain ⟨hreason, hsame⟩ := refused_iff buildable_pair (.deleteNode ⟨0⟩)
    have herror := (hreason (.headDeletion ⟨0⟩)).2 (by decide)
    exact Prod.ext herror (hsame _ herror)
  · intro error herror
    obtain ⟨hreason, -⟩ := refused_iff buildable_pair (.deleteNode ⟨1⟩)
    have hnone : pair.refusal? (.deleteNode ⟨1⟩) = none := by decide
    exact absurd ((hreason error).1 herror) (by simp [hnone])

end Graph

end TreeQuery
