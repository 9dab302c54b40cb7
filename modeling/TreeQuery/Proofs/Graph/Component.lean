import Mathlib.Logic.Relation
import TreeQuery.Proofs.Graph.WellFormed

set_option autoImplicit false

/-! # Components

A node is joined to another if relations lead from one to the other, whichever way they run. What is
joined to a node, with its relations, is its component. Two graphs can have the same component of a
node and differ in everything else (`Graph.SameComponent`). -/

namespace TreeQuery

/-- Whoever is opposite to an end of a relation is an end of it, too. -/
theorem Relation.touches_of_other {r : Relation} {u v : NodeId} (h : r.other u = some v) :
    r.Touches u ∧ r.Touches v := by
  unfold other at h
  split at h
  · next hu => exact ⟨.inl hu.symm, .inr (Option.some.inj h)⟩
  · split at h
    · next hu => exact ⟨.inr hu.symm, .inl (Option.some.inj h)⟩
    · exact absurd h (by simp)

namespace Graph

variable {g g' : Graph} {start v : NodeId}

/-- A relation leads from one node to another. -/
def Adjacent (g : Graph) (u v : NodeId) : Prop :=
  ∃ r relation, g.relations.get? r = some relation ∧ relation.other u = some v

/-- Relations lead from one node to another, over any number of nodes. -/
def Joined (g : Graph) : NodeId → NodeId → Prop := Relation.ReflTransGen g.Adjacent

theorem Joined.refl (g : Graph) (id : NodeId) : g.Joined id id := Relation.ReflTransGen.refl

theorem Joined.step (h : g.Joined start v) {r : RelationId} {relation : Relation} {w : NodeId}
    (hr : g.relations.get? r = some relation) (hother : relation.other v = some w) :
    g.Joined start w :=
  Relation.ReflTransGen.tail h ⟨r, relation, hr, hother⟩

/-- Some nodes that no relation leaves contain whatever is joined to one of them. -/
theorem Joined.mem_of_closed {nodes : List NodeId} (h : g.Joined start v) (hstart : start ∈ nodes)
    (hclosed : ∀ r relation, g.relations.get? r = some relation →
      (relation.source ∈ nodes ↔ relation.target ∈ nodes)) : v ∈ nodes := by
  induction h with
  | refl => exact hstart
  | tail _ hadjacent ih =>
      obtain ⟨r, relation, hr, hother⟩ := hadjacent
      have hends := hclosed r relation hr
      obtain ⟨hu, hv⟩ := Relation.touches_of_other hother
      have hin : relation.source ∈ nodes ∧ relation.target ∈ nodes := by
        rcases hu with rfl | rfl
        · exact ⟨ih, hends.1 ih⟩
        · exact ⟨hends.2 ih, ih⟩
      rcases hv with rfl | rfl
      · exact hin.1
      · exact hin.2

/-- What is joined to a node that is there is there. -/
theorem Joined.live (h : g.Joined start v) (hg : g.WellFormed) (hstart : start ∈ g.nodes.keys) :
    v ∈ g.nodes.keys :=
  h.mem_of_closed hstart fun _ _ hr => iff_of_true (hg.source_live hr) (hg.target_live hr)

/-- The component of a node is the same in two graphs: they keep the same of every node that is
joined to it, and its relations are the same. Nothing is said about the rest of the graphs, their
heads and their counters. -/
structure SameComponent (g g' : Graph) (start : NodeId) : Prop where
  nodes : ∀ v, g.Joined start v → g'.nodes.get? v = g.nodes.get? v
  relations : ∀ v, g.Joined start v → ∀ r relation, relation.Touches v →
    (g.relations.get? r = some relation ↔ g'.relations.get? r = some relation)

/-- A component is the same if this is so for some nodes around it that no relation leaves. -/
theorem sameComponent_of_closed (nodes : List NodeId) (hstart : start ∈ nodes)
    (hclosed : ∀ x ∈ g.relations.entries, (x.2.source ∈ nodes ↔ x.2.target ∈ nodes))
    (hnodes : ∀ v ∈ nodes, g'.nodes.get? v = g.nodes.get? v)
    (hrelations : (g.relations.entries.filter fun x => x.2.source ∈ nodes ∨ x.2.target ∈ nodes) =
      g'.relations.entries.filter fun x => x.2.source ∈ nodes ∨ x.2.target ∈ nodes) :
    g.SameComponent g' start := by
  have hmem : ∀ {v}, g.Joined start v → v ∈ nodes := fun hv =>
    hv.mem_of_closed hstart fun r relation hr => hclosed _ (OrderedMap.get?_eq_some_iff.1 hr)
  refine ⟨fun v hv => hnodes v (hmem hv), fun v hv r relation ht => ?_⟩
  have htouch : relation.source ∈ nodes ∨ relation.target ∈ nodes := by
    rcases ht with rfl | rfl
    · exact .inl (hmem hv)
    · exact .inr (hmem hv)
  have hentries := congrArg ((r, relation) ∈ ·) hrelations
  simpa [htouch, OrderedMap.get?_eq_some_iff] using hentries

end Graph

end TreeQuery
