import Mathlib.Algebra.BigOperators.Group.List.Lemmas
import Mathlib.Algebra.GroupWithZero.Nat
import TreeQuery.Proofs.Graph.Faults

set_option autoImplicit false

/-! # Lists of nodes and the table of relations

What a graph answers about the relations of a node it reads off the lists that the nodes keep, and
each question goes to another list: whether a relation runs from `a` to `b` is looked up at `a`, and
whether one runs into `b` from `a` at `b`. Here the same is asked of the table alone. In a
well-formed graph the answers are those of a scan of the table (`WellFormed.hasRelationTo_eq`,
`WellFormed.incident_eq`), and since every relation starts at one node and ends at one node, the
degrees of all nodes add up to twice the number of relations (`WellFormed.sum_degrees`). -/

namespace TreeQuery.Graph

variable {g : Graph} {id : NodeId} {node : Node}

/-- Whether the table has a relation from one node to another. -/
def relates (g : Graph) (source target : NodeId) : Bool :=
  g.relations.entries.any fun e => e.2.source = source && e.2.target = target

theorem relates_eq_true_iff {source target : NodeId} : g.relates source target = true ↔
    ∃ r relation, g.relations.get? r = some relation ∧ relation.source = source ∧
      relation.target = target := by
  simp only [relates, List.any_eq_true, Bool.and_eq_true, decide_eq_true_eq]
  constructor
  · rintro ⟨e, he, hs, ht⟩
    exact ⟨e.1, e.2, OrderedMap.get?_eq_some_iff.2 he, hs, ht⟩
  · rintro ⟨r, relation, hr, hs, ht⟩
    exact ⟨(r, relation), OrderedMap.get?_eq_some_iff.1 hr, hs, ht⟩

/-! ## Relations between two nodes -/

/-- Testing the relations that a first test selects is testing the table for both. -/
theorem any_relationsWhere (p q : Relation → Bool) :
    ((g.relationsWhere p).any fun r => (g.relations.get? r).any q) =
      g.relations.entries.any fun e => p e.2 && q e.2 := by
  rw [Bool.eq_iff_iff]
  simp only [List.any_eq_true, Option.any_eq_true, Bool.and_eq_true, mem_relationsWhere]
  constructor
  · rintro ⟨r, ⟨relation, hr, hp⟩, relation', hr', hq⟩
    obtain rfl : relation = relation' := Option.some.inj (hr.symm.trans hr')
    exact ⟨(r, relation), OrderedMap.get?_eq_some_iff.1 hr, hp, hq⟩
  · rintro ⟨e, he, hp, hq⟩
    have hr := OrderedMap.get?_eq_some_iff.2 he
    exact ⟨e.1, ⟨e.2, hr, hp⟩, e.2, hr, hq⟩

namespace WellFormed

/-- A handle that is no node's is no end of a relation. -/
theorem relates_eq_false (h : g.WellFormed) {source target : NodeId}
    (hdead : source ∉ g.nodes.keys ∨ target ∉ g.nodes.keys) : g.relates source target = false := by
  rw [Bool.eq_false_iff]
  intro hrelates
  obtain ⟨r, relation, hr, rfl, rfl⟩ := relates_eq_true_iff.1 hrelates
  rcases hdead with hs | ht
  · exact hs (h.source_live hr)
  · exact ht (h.target_live hr)

theorem hasRelationTo_eq (h : g.WellFormed) (source target : NodeId) :
    g.hasRelationTo source target = .ok (g.relates source target) := by
  rw [hasRelationTo]
  cases hn : g.nodes.get? source with
  | none => rw [h.relates_eq_false (.inl (OrderedMap.get?_eq_none_iff.1 hn))]
  | some node =>
      have hlive := fun r hr => h.incident_live hn r (List.mem_append_right _ hr)
      dsimp only
      rw [anyRelation_eq hlive, h.outgoing_eq hn, startingAt, any_relationsWhere, relates]

theorem hasRelationFrom_eq (h : g.WellFormed) (target source : NodeId) :
    g.hasRelationFrom target source = .ok (g.relates source target) := by
  rw [hasRelationFrom]
  cases hn : g.nodes.get? target with
  | none => rw [h.relates_eq_false (.inr (OrderedMap.get?_eq_none_iff.1 hn))]
  | some node =>
      have hlive := fun r hr => h.incident_live hn r (List.mem_append_left _ hr)
      dsimp only
      rw [anyRelation_eq hlive, h.incoming_eq hn, endingAt, any_relationsWhere, relates]
      simp only [Bool.and_comm]

end WellFormed

/-! ## The relations of a node -/

/-- The relations that touch a node, by the table: those that end at it before those that start at
it, either of them oldest first. -/
def touching (g : Graph) (id : NodeId) : List RelationId := g.endingAt id ++ g.startingAt id

namespace WellFormed

theorem incident_eq (h : g.WellFormed) (hid : id ∈ g.nodes.keys) :
    g.incident id = .ok (g.touching id) := by
  obtain ⟨node, hn⟩ := OrderedMap.mem_keys_iff.1 hid
  simp only [incident, hn, h.incoming_eq hn, h.outgoing_eq hn, touching]

theorem degree_eq (h : g.WellFormed) (hid : id ∈ g.nodes.keys) :
    g.degree id = .ok (g.touching id).length := by
  obtain ⟨node, hn⟩ := OrderedMap.mem_keys_iff.1 hid
  simp only [degree, hn, Node.degree, h.incoming_eq hn, h.outgoing_eq hn, touching,
    List.length_append]

theorem nodup_touching (h : g.WellFormed) (id : NodeId) : (g.touching id).Nodup := by
  refine (nodup_relationsWhere _ _).append (nodup_relationsWhere _ _) fun r hending hstarting => ?_
  obtain ⟨relation, hr, ht⟩ := mem_endingAt.1 hending
  obtain ⟨relation', hr', hs⟩ := mem_startingAt.1 hstarting
  obtain rfl : relation = relation' := Option.some.inj (hr.symm.trans hr')
  exact h.ends_differ hr (hs.trans ht.symm)

end WellFormed

/-! ## The degrees of all nodes -/

/-- What is counted key by key is counted once, if every key stands once. -/
theorem sum_map_count {α : Type} [DecidableEq α] {keys xs : List α} (hkeys : keys.Nodup)
    (hxs : ∀ x ∈ xs, x ∈ keys) : (keys.map fun k => xs.count k).sum = xs.length := by
  induction xs with
  | nil => simp
  | cons x xs ih =>
      have hx : x ∈ keys := hxs x (List.mem_cons_self ..)
      have hrest := ih fun y hy => hxs y (List.mem_cons_of_mem _ hy)
      have hone : (keys.map fun k => if x == k then 1 else 0).sum = 1 := by
        rw [List.sum_map_eq_nsmul_single x _ fun k hne _ => by simp [hne.symm],
          List.count_eq_one_of_mem hkeys hx]
        simp
      simp only [List.count_cons, List.sum_map_add, hrest, hone, List.length_cons]

/-- Every relation has one node at a given end, so the numbers of relations that have a node there
add up to the number of all relations. -/
theorem sum_length_relationsWhere (g : Graph) {side : Relation → NodeId}
    (hlive : ∀ {r relation}, g.relations.get? r = some relation → side relation ∈ g.nodes.keys) :
    (g.nodes.keys.map fun v => (g.relationsWhere (side · = v)).length).sum = g.relations.size := by
  have hkeys : g.nodes.keys.Nodup := g.nodes.nodup_keys
  have hcovered : ∀ v ∈ g.relations.entries.map fun e => side e.2, v ∈ g.nodes.keys := by
    intro v hv
    obtain ⟨e, he, rfl⟩ := List.mem_map.1 hv
    exact hlive (OrderedMap.get?_eq_some_iff.2 he)
  have hcount : ∀ v, (g.relationsWhere (side · = v)).length =
      (g.relations.entries.map fun e => side e.2).count v := by
    intro v
    rw [relationsWhere, List.length_map, ← List.countP_eq_length_filter, List.count,
      List.countP_map]
    rfl
  simp only [hcount]
  rw [sum_map_count hkeys hcovered, List.length_map, OrderedMap.size]

namespace WellFormed

/-- The degrees of all nodes can be asked for, and they are those by the table. -/
theorem mapM_degree (h : g.WellFormed) {ids : List NodeId} (hids : ∀ id ∈ ids, id ∈ g.nodes.keys) :
    ids.mapM g.degree = .ok (ids.map fun v => (g.touching v).length) := by
  induction ids with
  | nil => rfl
  | cons v rest ih =>
      have hv := h.degree_eq (hids v (List.mem_cons_self ..))
      rw [List.mapM_cons, hv, ih fun v' hv' => hids v' (List.mem_cons_of_mem _ hv')]
      rfl

/-- Every relation is counted at both of its ends. -/
theorem sum_degrees (h : g.WellFormed) : ∃ degrees, g.nodes.keys.mapM g.degree = .ok degrees ∧
    degrees.sum = 2 * g.relations.size := by
  refine ⟨_, h.mapM_degree fun id hid => hid, ?_⟩
  have hending := g.sum_length_relationsWhere h.target_live
  have hstarting := g.sum_length_relationsWhere h.source_live
  simp only [touching, endingAt, startingAt, List.length_append, List.sum_map_add]
  omega

end WellFormed

/-- **Lists and table agree.** Both ways to ask whether a relation runs from one node to another
come to the same, whatever handles are asked for: what a scan of the table gives. The relations of a
live node are those that end at it and then those that start at it, in the order of the table, each
of them once, and the degree is their number; for all other handles both questions are refused. The
degrees of all nodes add up to twice the number of relations. -/
theorem incidence_eq_scan (hg : g.Buildable) :
    (∀ a b, ∃ answer, g.hasRelationTo a b = .ok answer ∧ g.hasRelationFrom b a = .ok answer ∧
      (answer = true ↔ ∃ r relation, g.relations.get? r = some relation ∧
        relation.source = a ∧ relation.target = b)) ∧
    (∀ v ∈ g.nodes.keys, g.incident v = .ok (g.endingAt v ++ g.startingAt v) ∧
      (g.endingAt v ++ g.startingAt v).Nodup ∧
      g.degree v = .ok (g.endingAt v ++ g.startingAt v).length) ∧
    (∀ v, v ∉ g.nodes.keys →
      g.incident v = .error (.unknownNode v) ∧ g.degree v = .error (.unknownNode v)) ∧
    ∃ degrees, g.nodes.keys.mapM g.degree = .ok degrees ∧
      degrees.sum = 2 * g.relations.size := by
  have hwell := hg.wellFormed
  refine ⟨fun a b => ?_, fun v hv => ?_, fun v hv => ?_, hwell.sum_degrees⟩
  · exact ⟨g.relates a b, hwell.hasRelationTo_eq a b, hwell.hasRelationFrom_eq b a,
      relates_eq_true_iff⟩
  · exact ⟨hwell.incident_eq hv, hwell.nodup_touching v, hwell.degree_eq hv⟩
  · have hnone := OrderedMap.get?_eq_none_iff.2 hv
    simp only [incident, degree, hnone, and_self]

/-- Two nodes with relations both ways, one of them turned around twice, and a third node that has
been deleted with its relations. -/
def worn : Graph :=
  .replay .empty [.createNode "a", .createNode "b", .createNode "c", .createRelation ⟨0⟩ ⟨1⟩ {},
    .createRelation ⟨1⟩ ⟨2⟩ {}, .createRelation ⟨0⟩ ⟨2⟩ {}, .createRelation ⟨1⟩ ⟨0⟩ {},
    .reverseRelation ⟨0⟩, .deleteNode ⟨2⟩, .reverseRelation ⟨4⟩, .createRelation ⟨1⟩ ⟨0⟩ {}]

theorem incidence_worn :
    worn.incident ⟨0⟩ = .ok [⟨3⟩, ⟨6⟩, ⟨5⟩] ∧ worn.degree ⟨0⟩ = .ok 3 ∧
    worn.hasRelationTo ⟨0⟩ ⟨1⟩ = .ok true ∧ worn.hasRelationFrom ⟨2⟩ ⟨1⟩ = .ok false ∧
    worn.incident ⟨2⟩ = .error (.unknownNode ⟨2⟩) ∧
    ∃ degrees, worn.nodes.keys.mapM worn.degree = .ok degrees ∧ degrees.sum = 6 := by
  have hworn : worn.Buildable := ⟨_, rfl⟩
  obtain ⟨hbetween, hlive, hdead, hsum⟩ := incidence_eq_scan hworn
  obtain ⟨hincident, -, hdegree⟩ := hlive ⟨0⟩ (by decide)
  have htouching : worn.endingAt ⟨0⟩ ++ worn.startingAt ⟨0⟩ = [⟨3⟩, ⟨6⟩, ⟨5⟩] := by decide
  rw [htouching] at hincident hdegree
  obtain ⟨there, hto, -, hthere⟩ := hbetween ⟨0⟩ ⟨1⟩
  obtain ⟨gone, -, hfrom, hgone⟩ := hbetween ⟨1⟩ ⟨2⟩
  obtain rfl : there = true := hthere.2 ⟨⟨5⟩, ⟨⟨0⟩, ⟨1⟩, {}⟩, by decide, rfl, rfl⟩
  obtain rfl : gone = false := by
    rw [Bool.eq_false_iff]
    intro h
    obtain ⟨r, relation, hr, -, ht⟩ := hgone.1 h
    have hends : ∀ e ∈ worn.relations.entries, e.2.target ≠ ⟨2⟩ := by decide
    exact hends _ (OrderedMap.get?_eq_some_iff.1 hr) ht
  exact ⟨hincident, hdegree, hto, hfrom, (hdead ⟨2⟩ (by decide)).1, hsum⟩

end TreeQuery.Graph
