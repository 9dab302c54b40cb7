import TreeQuery.Proofs.Graph.History
import TreeQuery.Proofs.Query.Search

set_option autoImplicit false

/-! # References back stay in scope

A reference back is written for a relation that has not been met and leads to a node that has. Such
a node is on the way to the one whose relations are read (`Open.mem_path`), and the first mentions
of the nodes on the way are those that enclose the place where the search is. -/

namespace TreeQuery

/-- A mention that refers back to a node stands in the scope of the first mention of the node: that
encloses the mention whose clause leads back, gives the label, and is the only one. -/
def Expr.Scoped (e : Expr) : Prop :=
  ∀ place u pattern groups label clauses,
    e.at? place = some (.define u pattern groups label clauses) →
      ∀ c ∈ clauses, ∀ v name, c.target = .backRef v name →
        ∃ above d, above <+: place ∧ above ≠ place ∧ e.at? above = some d ∧ d.defines? = some v ∧
          d.label = name ∧ ∀ other d', e.at? other = some d' → d'.defines? = some v → other = above

namespace Query

section

variable [Pattern.Dialect] {g : Graph} {labels : LabelTable} {groupLabels : Bool}

theorem Visits.name?_eq {id : NodeId} {seen seen' : Seen} {e : Expr}
    (h : Visits g labels groupLabels id seen e seen') : labels.name? id = some e.label := by
  cases h with
  | back hlabel hold => exact hlabel
  | first hlabel hnew hnode hreads => exact hlabel

/-- Every mention carries the label that the table gives to its node. -/
theorem Visits.name?_node (hg : g.WellFormed) {start : NodeId} {seen : Seen} {e d : Expr}
    {place : List Nat} (h : Visits g labels groupLabels start {} e seen)
    (hd : e.at? place = some d) : labels.name? d.node = some d.label := by
  obtain ⟨_, u, _, _, hvisits, -, -⟩ := h.at_place hg (.start g start) hd
  rw [hvisits.node_eq]
  exact hvisits.name?_eq

/-- The first mention of a node carries the label that the table gives the node. -/
theorem Visits.name?_of_at? (hg : g.WellFormed) {start v : NodeId} {seen : Seen} {e d : Expr}
    {place : List Nat} (h : Visits g labels groupLabels start {} e seen)
    (hd : e.at? place = some d) (hv : d.defines? = some v) : labels.name? v = some d.label := by
  obtain ⟨_, _, _, _, rfl⟩ := Expr.defines?_eq_some_iff.1 hv
  exact h.name?_node hg hd

theorem Visits.scoped (hg : g.WellFormed) {start : NodeId} {seen : Seen} {e : Expr}
    (h : Visits g labels groupLabels start {} e seen) : e.Scoped := by
  intro place u pattern groups label clauses hu c hc v name hv
  obtain ⟨way, id, before, after, hvisits, hopen, hway⟩ := h.at_place hg (.start g start) hu
  cases hvisits with
  | first hlabel hnew hnode hreads =>
      obtain ⟨dir, relation, between, _, hbetween, hmet, hleads, -, htarget⟩ :=
        hreads.clause hg hopen hc
      rw [hv] at htarget
      cases htarget with
      | back hname hold =>
          -- The search is at `u`, and what it finds there is on the way to `u`.
          have hpath := hbetween.mem_path hg hleads hmet hold
          rw [List.append_nil] at hpath
          obtain ⟨above, d, hprefix, hne, hd, hdefines⟩ := hway _ hpath
          have hlabels := (h.name?_of_at? hg hd hdefines).symm.trans hname
          refine ⟨above, d, hprefix, hne, hd, hdefines, Option.some.inj hlabels, ?_⟩
          intro other d' hd' hdefines'
          exact Expr.place_eq_of_nodup h.nodup_expr.1 hd' hdefines' hd hdefines

/-- A reference back is not the root, so the first mention of its node stands above it. -/
theorem Visits.exists_first (hg : g.WellFormed) {start v : NodeId} {seen : Seen} {e : Expr}
    {place : List Nat} {name : String} (h : Visits g labels groupLabels start {} e seen)
    (hback : e.at? place = some (.backRef v name)) :
    ∃ first d, e.at? first = some d ∧ d.defines? = some v ∧ d.label = name ∧
      ∀ other d', e.at? other = some d' → d'.defines? = some v → other = first := by
  rcases List.eq_nil_or_concat place with rfl | ⟨above, i, rfl⟩
  · obtain rfl : e = .backRef v name := Option.some.inj hback
    cases h with
    | back hlabel hold => exact absurd hold List.not_mem_nil
  · rw [List.concat_eq_append] at hback
    obtain ⟨u, pattern, groups, label, clauses, c, hu, hc, htarget⟩ :=
      Expr.at?_concat_eq_some_iff.1 hback
    obtain ⟨first, d, -, -, hd, hdefines, hlabel, hunique⟩ :=
      h.scoped hg above u pattern groups label clauses hu c (List.mem_of_getElem? hc) v name htarget
    exact ⟨first, d, hd, hdefines, hlabel, hunique⟩

/-- Every node that is mentioned is mentioned for the first time somewhere. -/
theorem Visits.node_mem_nodes (hg : g.WellFormed) {start : NodeId} {seen : Seen} {e d : Expr}
    {place : List Nat} (h : Visits g labels groupLabels start {} e seen)
    (hd : e.at? place = some d) : d.node ∈ e.nodes := by
  cases d with
  | backRef v name =>
      obtain ⟨first, d, hfirst, hdefines, -⟩ := h.exists_first hg hd
      exact Expr.mem_nodes_of_at? hfirst hdefines
  | define v pattern groups label clauses => exact Expr.mem_nodes_of_at? hd rfl

/-- References back stay in scope. -/
theorem scoped_of_compileFrom {start : NodeId} {config : Config} {c : Compiled} (hg : g.Buildable)
    (hc : g.compileFrom start config = .ok c) : ∃ e, c.expr = some e ∧ e.Scoped := by
  obtain ⟨e, seen, he, hvisits⟩ := visits_of_compileFrom hc
  exact ⟨e, he, hvisits.scoped hg.wellFormed⟩

end

theorem scoped_knot : ∃ c e, knot.compileFrom ⟨0⟩ {} = .ok c ∧ c.expr = some e ∧
    e.backReferences = ["___g0", "___g0", "___g0"] ∧ e.Scoped := by
  obtain ⟨c, hc⟩ : ∃ c, knot.compileFrom ⟨0⟩ {} = .ok c := ⟨_, rfl⟩
  obtain ⟨e, he, hscoped⟩ := scoped_of_compileFrom buildable_knot hc
  have hback : e.backReferences = ["___g0", "___g0", "___g0"] := eq_of_compileFrom_map hc he rfl
  exact ⟨c, e, hc, he, hback, hscoped⟩

end Query

end TreeQuery
