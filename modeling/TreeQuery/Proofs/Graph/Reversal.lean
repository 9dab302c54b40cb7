import TreeQuery.Proofs.Graph.Reachability
import TreeQuery.Proofs.Graph.Rebuilding

set_option autoImplicit false

/-! # Reversed relations

A relation is turned around by deleting it and creating another one. `Graph.Turned` says what this
leaves, place by place: the relation gives way to a new one at the end of the table, three lists of
its two ends change with it, and nothing else does but the number of the next relation. The new
relation joins the same nodes, so nothing changes in what can be reached (`WellFormed.joined_turn`).
Turned around twice, a relation is where it would be had it been deleted and created anew, only that
one handle more has been used up (`WellFormed.turn_turn`). -/

namespace TreeQuery

/-- The relation the other way round. -/
def Relation.flip (relation : Relation) : Relation :=
  ⟨relation.target, relation.source, relation.descriptor⟩

/-- A relation leads to the same nodes when it is turned around. -/
theorem Relation.other_flip {relation : Relation} (hne : relation.source ≠ relation.target)
    (v : NodeId) : relation.flip.other v = relation.other v := by
  by_cases hs : v = relation.source
  · have ht : v ≠ relation.target := fun ht => hne (hs.symm.trans ht)
    simp [other, flip, hs, hne]
  · by_cases ht : v = relation.target
    · simp [other, flip, ht, hne.symm]
    · simp [other, flip, hs, ht]

theorem Node.strike_addOutgoing (node : Node) (r : RelationId) :
    (node.addOutgoing r).strike [r] = node.strike [r] := by
  simp [strike, addOutgoing]

theorem Node.strike_addIncoming (node : Node) (r : RelationId) :
    (node.addIncoming r).strike [r] = node.strike [r] := by
  simp [strike, addIncoming]

/-- Nothing is struck from a node that does not list the relation. -/
theorem Node.strike_of_not_mem {node : Node} {r : RelationId}
    (h : r ∉ node.incoming ++ node.outgoing) : node.strike [r] = node := by
  have hkeep : ∀ rs : List RelationId, rs ⊆ node.incoming ++ node.outgoing →
      rs.filter (· ∉ [r]) = rs := fun rs hrs =>
    List.filter_eq_self.2 fun r' hr' => by
      have hne : r' ≠ r := fun heq => h (heq ▸ hrs hr')
      simpa using hne
  rw [strike, hkeep _ (List.subset_append_left ..), hkeep _ (List.subset_append_right ..)]

/-- Relations from a number on get the next handle, and all other handles stay. -/
def Renaming.skip (number : Nat) : Renaming where
  node := .refl NodeId
  relation := ⟨fun r => if r.index < number then r else ⟨r.index + 1⟩, fun r r' h => by
    obtain ⟨i⟩ := r
    obtain ⟨j⟩ := r'
    simp only at h
    split at h <;> split at h <;> simp only [RelationId.mk.injEq] at h ⊢ <;> omega⟩

theorem Renaming.skip_of_lt {number : Nat} {r : RelationId} (h : r.index < number) :
    (skip number).relation r = r :=
  if_pos h

theorem Renaming.skip_of_le {number : Nat} {r : RelationId} (h : number ≤ r.index) :
    (skip number).relation r = ⟨r.index + 1⟩ :=
  if_neg (Nat.not_lt.2 h)

namespace Graph

variable {g : Graph} {r : RelationId} {relation : Relation}

/-- What a reversal leaves. -/
structure Turned (g : Graph) (r : RelationId) (relation : Relation) (g' : Graph) : Prop where
  /-- The relation is gone, and the new one is the last of the table. -/
  relations : g'.relations.entries =
    g.relations.entries.filter (·.1 ≠ r) ++ [(⟨g.nextRelation⟩, relation.flip)]
  keys : g'.nodes.keys = g.nodes.keys
  source : ∀ node, g.nodes.get? relation.source = some node →
    g'.nodes.get? relation.source = some { node with
      outgoing := node.outgoing.filter (· ≠ r)
      incoming := node.incoming ++ [⟨g.nextRelation⟩] }
  target : ∀ node, g.nodes.get? relation.target = some node →
    g'.nodes.get? relation.target = some { node with
      incoming := node.incoming.filter (· ≠ r)
      outgoing := node.outgoing ++ [⟨g.nextRelation⟩] }
  others : ∀ v, v ≠ relation.source → v ≠ relation.target → g'.nodes.get? v = g.nodes.get? v
  head : g'.head = g.head
  nextNode : g'.nextNode = g.nextNode
  nextRelation : g'.nextRelation = g.nextRelation + 1

/-- The graph with a relation turned around. -/
def turn (r : RelationId) (relation : Relation) (g : Graph) : Graph :=
  (g.strike [r]).addRelation relation.target relation.source relation.descriptor

/-- What a reversal makes of a node. -/
theorem get?_nodes_turn (g : Graph) (r : RelationId) (relation : Relation) (v : NodeId) :
    (g.turn r relation).nodes.get? v = (g.nodes.get? v).map fun node =>
      { node.strike [r] with
        outgoing := (node.strike [r]).outgoing ++
          if relation.target = v then [⟨g.nextRelation⟩] else []
        incoming := (node.strike [r]).incoming ++
          if relation.source = v then [⟨g.nextRelation⟩] else [] } := by
  rw [turn, get?_nodes_addRelation, get?_nodes_strike, Option.map_map]
  rfl

/-- Delete a relation and create it anew. -/
def recreation (r : RelationId) (relation : Relation) : List Edit :=
  [.deleteRelation r, .createRelation relation.source relation.target relation.descriptor]

namespace WellFormed

theorem perform_reverseRelation (h : g.WellFormed) (hr : g.relations.get? r = some relation) :
    g.perform (.reverseRelation r) =
      (.ok (.createdRelation ⟨g.nextRelation⟩), g.turn r relation) := by
  rw [Graph.perform, Edit.mutation, Mutation.on_map, h.on_reverseRelation, hr]
  rfl

theorem turn (h : g.WellFormed) (hr : g.relations.get? r = some relation) :
    (g.turn r relation).WellFormed := by
  have hperform := h.perform (.reverseRelation r)
  rwa [h.perform_reverseRelation hr] at hperform

/-! ## Place by place -/

theorem entries_relations_turn (h : g.WellFormed) :
    (g.turn r relation).relations.entries =
      g.relations.entries.filter (·.1 ≠ r) ++ [(⟨g.nextRelation⟩, relation.flip)] := by
  have hnew := OrderedMap.get?_eq_none_iff.2 (wellFormed_strike h [r]).nextRelation_not_mem
  rw [Graph.turn, addRelation, OrderedMap.entries_insert_of_get?_eq_none hnew]
  simp [strike, Relation.flip]

theorem turned (h : g.WellFormed) (hr : g.relations.get? r = some relation) :
    g.Turned r relation (g.turn r relation) := by
  have hne := h.ends_differ hr
  constructor
  case relations => exact h.entries_relations_turn
  case keys => simp [Graph.turn, addRelation]
  case source =>
    intro node hn
    rw [get?_nodes_turn, hn, Option.map_some, h.strike_node hr hn]
    simp [hne, hne.symm, Node.dropOutgoing]
  case target =>
    intro node hn
    rw [get?_nodes_turn, hn, Option.map_some, h.strike_node hr hn]
    simp [hne, hne.symm, Node.dropIncoming]
  case others =>
    intro v hs ht
    rw [get?_nodes_turn]
    cases hn : g.nodes.get? v with
    | none => rfl
    | some node =>
        rw [Option.map_some, h.strike_node hr hn]
        simp [hs, ht, hs.symm, ht.symm]
  case head => rfl
  case nextNode => rfl
  case nextRelation => rfl

/-! ## What can be reached -/

/-- The relation and the new one lead to the same nodes, and all others are the same. -/
theorem adjacent_turn (h : g.WellFormed) (hr : g.relations.get? r = some relation) (u v : NodeId) :
    (g.turn r relation).Adjacent u v ↔ g.Adjacent u v := by
  have hmem : ∀ r' relation', (g.turn r relation).relations.get? r' = some relation' ↔
      (g.relations.get? r' = some relation' ∧ r' ≠ r) ∨
        r' = ⟨g.nextRelation⟩ ∧ relation' = relation.flip := by
    intro r' relation'
    rw [OrderedMap.get?_eq_some_iff, h.entries_relations_turn, List.mem_append, List.mem_filter,
      List.mem_singleton, Prod.mk.injEq, OrderedMap.get?_eq_some_iff, decide_eq_true_eq]
  have hflip := Relation.other_flip (h.ends_differ hr)
  constructor
  · rintro ⟨r', relation', hr', hother⟩
    rcases (hmem r' relation').1 hr' with ⟨hold, -⟩ | ⟨-, rfl⟩
    · exact ⟨r', relation', hold, hother⟩
    · exact ⟨r, relation, hr, (hflip u).symm.trans hother⟩
  · rintro ⟨r', relation', hr', hother⟩
    by_cases hsame : r' = r
    · subst hsame
      obtain rfl : relation = relation' := Option.some.inj (hr.symm.trans hr')
      exact ⟨_, _, (hmem _ _).2 (.inr ⟨rfl, rfl⟩), (hflip u).trans hother⟩
    · exact ⟨r', relation', (hmem r' relation').2 (.inl ⟨hr', hsame⟩), hother⟩

theorem joined_turn (h : g.WellFormed) (hr : g.relations.get? r = some relation) (u v : NodeId) :
    (g.turn r relation).Joined u v ↔ g.Joined u v := by
  have hadjacent : (g.turn r relation).Adjacent = g.Adjacent :=
    funext fun u => funext fun v => propext (h.adjacent_turn hr u v)
  rw [Joined, Joined, hadjacent]

/-- A search from a node that is there finds what is joined to it. -/
theorem exists_reachable (h : g.WellFormed) {start : NodeId} (hstart : start ∈ g.nodes.keys) :
    ∃ nodes, g.reachable start = .ok nodes ∧ nodes.Nodup ∧ ∀ v, v ∈ nodes ↔ g.Joined start v := by
  obtain ⟨nodes, hnodes, hdone⟩ := (Exploring.initial g start).exists_explore h hstart
  refine ⟨nodes, ?_, hdone.nodup, hdone.isComponent.mem_iff⟩
  rw [reachable, if_pos (OrderedMap.contains_iff_mem_keys.2 hstart), hnodes]
  rfl

/-- A reversal does not change what can be reached, though the order may be another one. -/
theorem exists_reachable_turn (h : g.WellFormed) (hr : g.relations.get? r = some relation)
    {start : NodeId} (hstart : start ∈ g.nodes.keys) :
    ∃ nodes nodes', g.reachable start = .ok nodes ∧
      (g.turn r relation).reachable start = .ok nodes' ∧ nodes'.Perm nodes := by
  have hstart' : start ∈ (g.turn r relation).nodes.keys := by
    rwa [(h.turned hr).keys]
  obtain ⟨nodes, hnodes, hnodup, hmem⟩ := h.exists_reachable hstart
  obtain ⟨nodes', hnodes', hnodup', hmem'⟩ := (h.turn hr).exists_reachable hstart'
  refine ⟨nodes, nodes', hnodes, hnodes', (List.perm_ext_iff_of_nodup hnodup' hnodup).2 fun v => ?_⟩
  rw [hmem', hmem, h.joined_turn hr]

/-! ## There and back -/

/-- Striking the relation that was added last takes the graph back, but for the number of the next
relation. -/
theorem strike_addRelation (h : g.WellFormed) (source target : NodeId)
    (descriptor : Relation.Descriptor) :
    (g.addRelation source target descriptor).strike [⟨g.nextRelation⟩] =
      { g with nextRelation := g.nextRelation + 1 } := by
  have hnew := h.nextRelation_not_mem
  have hnodes : ((g.addRelation source target descriptor).nodes.mapValues fun _ node =>
      node.strike [⟨g.nextRelation⟩]) = g.nodes := by
    ext1
    simp only [addRelation, OrderedMap.entries_mapValues, OrderedMap.entries_modify, List.map_map]
    refine (List.map_congr_left fun e he => ?_).trans (List.map_id _)
    have hfixed : e.2.strike [⟨g.nextRelation⟩] = e.2 := Node.strike_of_not_mem fun hm =>
      hnew (h.incident_live (OrderedMap.get?_eq_some_iff.2 he) _ hm)
    simp only [Function.comp_apply]
    split <;> split <;>
      simp only [Node.strike_addIncoming, Node.strike_addOutgoing, hfixed, Prod.mk.eta, id_eq]
  have hrelations : ((g.addRelation source target descriptor).relations.filter fun r _ =>
      r ∉ [⟨g.nextRelation⟩]) = g.relations := by
    ext1
    rw [OrderedMap.entries_filter, addRelation,
      OrderedMap.entries_insert_of_get?_eq_none (OrderedMap.get?_eq_none_iff.2 hnew),
      List.filter_append]
    have hkeep : g.relations.entries.filter (fun e => e.1 ∉ [⟨g.nextRelation⟩]) =
        g.relations.entries := List.filter_eq_self.2 fun e he => by
      have hne : e.1 ≠ ⟨g.nextRelation⟩ := fun heq => hnew (heq ▸ List.mem_map_of_mem he)
      simpa using hne
    rw [hkeep]
    simp
  rw [strike, hnodes, hrelations]
  rfl

/-- A graph has given no handle that skipping its next one would change. -/
theorem aligned_skip (h : g.WellFormed) :
    Aligned (.skip g.nextRelation) g { g with nextRelation := g.nextRelation + 1 } := by
  have hfixed : ∀ r ∈ g.relations.keys, (Renaming.skip g.nextRelation).relation r = r :=
    fun r hr => Renaming.skip_of_lt (h.relations_issued r hr)
  refine ⟨⟨?_, ?_, ?_⟩, fun k => rfl, fun k => ?_⟩
  · ext1
    refine ((List.map_congr_left fun e he => ?_).trans (List.map_id _)).symm
    have hlisted := h.incident_live (OrderedMap.get?_eq_some_iff.2 he)
    have hkeep : ∀ rs : List RelationId, rs ⊆ e.2.incoming ++ e.2.outgoing →
        rs.map (Renaming.skip g.nextRelation).relation = rs := fun rs hrs =>
      (List.map_congr_left fun r hr => hfixed r (hlisted r (hrs hr))).trans (List.map_id _)
    rw [Prod.map, Node.rename, hkeep _ (List.subset_append_left ..),
      hkeep _ (List.subset_append_right ..)]
    rfl
  · ext1
    refine ((List.map_congr_left fun e he => ?_).trans (List.map_id _)).symm
    rw [Prod.map, hfixed e.1 (List.mem_map_of_mem he)]
    rfl
  · show g.head = g.head.map id
    rw [Option.map_id, id]
  · rw [Renaming.skip_of_le (Nat.le_add_right ..)]
    exact congrArg RelationId.mk (Nat.add_right_comm ..)

/-- Turning a relation around twice moves it to the end of the table, as deleting it and creating it
anew does, and uses up one handle more. -/
theorem turn_turn (h : g.WellFormed) (r : RelationId) (relation : Relation) :
    (g.turn r relation).turn ⟨g.nextRelation⟩ relation.flip =
      { ((g.strike [r]).addRelation relation.source relation.target relation.descriptor).rename
          (.skip g.nextRelation) with nextRelation := g.nextRelation + 2 } := by
  have hstruck := wellFormed_strike h [r]
  have hback : (g.turn r relation).strike [⟨g.nextRelation⟩] =
      { g.strike [r] with nextRelation := g.nextRelation + 1 } :=
    hstruck.strike_addRelation _ _ _
  have haligned := hstruck.aligned_skip.addRelation relation.source relation.target
    relation.descriptor
  rw [Graph.turn, hback]
  exact (Graph.mk.injEq ..).mpr ⟨haligned.nodes, haligned.relations, haligned.head, rfl, rfl⟩

/-- A relation that is there can be deleted and created anew. -/
theorem recreate (h : g.WellFormed) (hr : g.relations.get? r = some relation) :
    g.replay (recreation r relation) =
      (g.strike [r]).addRelation relation.source relation.target relation.descriptor ∧
    g.answers (recreation r relation) =
      [.ok (.removedRelation relation), .ok (.createdRelation ⟨g.nextRelation⟩)] := by
  have hdelete : g.perform (.deleteRelation r) =
      (.ok (.removedRelation relation), g.strike [r]) := by
    rw [Graph.perform, Edit.mutation, Mutation.on_map, h.on_deleteRelation, hr]
    rfl
  have hcreate : (g.strike [r]).perform
      (.createRelation relation.source relation.target relation.descriptor) =
        (.ok (.createdRelation ⟨g.nextRelation⟩),
          (g.strike [r]).addRelation relation.source relation.target relation.descriptor) := by
    have hs : relation.source ∈ (g.strike [r]).nodes.keys := by simpa using h.source_live hr
    have ht : relation.target ∈ (g.strike [r]).nodes.keys := by simpa using h.target_live hr
    rw [Graph.perform, Edit.mutation, Mutation.on_map, on_createRelation,
      if_neg (not_not_intro hs), if_neg (not_not_intro ht), if_neg (h.ends_differ hr)]
    rfl
  constructor
  · rw [recreation, Graph.replay, List.foldl_cons, hdelete, List.foldl_cons, hcreate,
      List.foldl_nil]
  · rw [recreation, answers, hdelete, answers, hcreate, answers]

end WellFormed

/-- **The effect of a reversal.** A relation that is there is turned around under a fresh handle,
and the graph that is left is known place by place. The same nodes can be reached from every node as
before. Turned around once more, the graph is the one in which the relation has been deleted and
created anew, only that its last relation has the handle after the one that it has there. -/
theorem reversal_effect (hg : g.Buildable) (hr : g.relations.get? r = some relation) :
    ∃ g', g.perform (.reverseRelation r) = (.ok (.createdRelation ⟨g.nextRelation⟩), g') ∧
      g.Turned r relation g' ∧
      (∀ x ∈ g.nodes.keys, ∃ nodes nodes', g.reachable x = .ok nodes ∧
        g'.reachable x = .ok nodes' ∧ nodes'.Perm nodes) ∧
      ∃ back redone,
        g'.perform (.reverseRelation ⟨g.nextRelation⟩) =
          (.ok (.createdRelation ⟨g.nextRelation + 1⟩), back) ∧
        g.replay (recreation r relation) = redone ∧
        g.answers (recreation r relation) =
          [.ok (.removedRelation relation), .ok (.createdRelation ⟨g.nextRelation⟩)] ∧
        back = { redone.rename (.skip g.nextRelation) with
          nextRelation := redone.nextRelation + 1 } ∧
        ∀ r' ∈ redone.relations.keys, r' ≠ ⟨g.nextRelation⟩ →
          (Renaming.skip g.nextRelation).relation r' = r' := by
  have h := hg.wellFormed
  obtain ⟨hreplay, hanswers⟩ := h.recreate hr
  have hnew : (g.turn r relation).relations.get? ⟨g.nextRelation⟩ = some relation.flip := by
    rw [OrderedMap.get?_eq_some_iff, h.entries_relations_turn]
    exact List.mem_append_right _ (List.mem_singleton_self _)
  have hagain := (h.turn hr).perform_reverseRelation hnew
  rw [h.turn_turn] at hagain
  refine ⟨g.turn r relation, h.perform_reverseRelation hr, h.turned hr,
    fun x hx => h.exists_reachable_turn hr hx, _, _, hagain, rfl, hanswers, ?_, ?_⟩
  · rw [hreplay]
    rfl
  · intro r' hr' hne
    have hissued := (h.replay (recreation r relation)).relations_issued r' hr'
    rw [hreplay] at hissued
    have hle : r'.index ≤ g.nextRelation := Nat.le_of_lt_succ hissued
    refine Renaming.skip_of_lt (Nat.lt_of_le_of_ne hle fun heq => hne ?_)
    exact congrArg RelationId.mk heq

/-- Two nodes with two parallel relations, and a third one that is found between the two as soon as
the first relation is turned around. -/
def fork : Graph :=
  .replay .empty [.createNode "a", .createNode "b", .createNode "c", .createRelation ⟨0⟩ ⟨1⟩ {},
    .createRelation ⟨0⟩ ⟨2⟩ {}, .createRelation ⟨0⟩ ⟨1⟩ { negative := true }]

theorem reversal_effect_fork :
    ∃ g' back, fork.perform (.reverseRelation ⟨0⟩) = (.ok (.createdRelation ⟨3⟩), g') ∧
      g'.relations.keys = [⟨1⟩, ⟨2⟩, ⟨3⟩] ∧
      (g'.nodes.get? ⟨0⟩).map (fun node => (node.outgoing, node.incoming)) =
        some ([⟨1⟩, ⟨2⟩], [⟨3⟩]) ∧
      (∃ nodes, g'.reachable ⟨0⟩ = .ok nodes ∧ nodes.Perm [⟨0⟩, ⟨1⟩, ⟨2⟩]) ∧
      g'.perform (.reverseRelation ⟨3⟩) = (.ok (.createdRelation ⟨4⟩), back) ∧
      back.relations.keys = [⟨1⟩, ⟨2⟩, ⟨4⟩] := by
  have hfork : fork.Buildable := ⟨_, rfl⟩
  have hfirst : fork.relations.get? ⟨0⟩ = some ⟨⟨0⟩, ⟨1⟩, {}⟩ := by decide
  obtain ⟨g', hreverse, hturned, hreach, back, redone, hagain, rfl, -, hback, -⟩ :=
    reversal_effect hfork hfirst
  obtain ⟨nodes, nodes', hnodes, hnodes', hperm⟩ := hreach ⟨0⟩ (by decide)
  have hbefore : fork.reachable ⟨0⟩ = .ok [⟨0⟩, ⟨1⟩, ⟨2⟩] :=
    Query.reachable_of_compileFrom_map hfork {} rfl
  obtain rfl := Except.ok.inj (hbefore.symm.trans hnodes)
  refine ⟨g', back, hreverse, ?_, ?_, ⟨nodes', hnodes', hperm⟩, hagain, ?_⟩
  · rw [OrderedMap.keys, hturned.relations]
    decide
  · rw [hturned.source _ rfl]
    decide
  · rw [hback]
    decide

end Graph

end TreeQuery
