import TreeQuery.Graph.Edit
import TreeQuery.Proofs.Graph.WellFormed
import TreeQuery.Proofs.Query.Reading

set_option autoImplicit false

/-! # The state of a search

While the relations of a node are read, every other node that has been met is either on the way to
it or finished: all of its relations have been met. And both ends of a relation that has been met
have been met. `Open` says this of a state of the search; reading keeps it (`Reads.open`), and so it
holds wherever a clause is written (`Reads.clause`) and wherever a mention stands
(`Visits.at_place`). That no new relation leads to a finished node is a consequence: it would have
been met (`Open.mem_path`). -/

namespace TreeQuery.Query

variable {g : Graph} {labels : LabelTable} {groupLabels : Bool}

/-! ## Relations read from a node -/

namespace Leads

variable {id v : NodeId} {x : RelationId × Relation.Direction} {relation : Relation}

/-- The ends of a relation are the node from which it is read and the one to which it leads. -/
theorem ends (h : Leads g id x relation) :
    (relation.source = id ∧ relation.target = relation.far x.2) ∨
      (relation.target = id ∧ relation.source = relation.far x.2) := by
  have hother := h.other
  unfold Relation.other at hother
  split at hother
  · next hs => exact .inl ⟨hs.symm, Option.some.inj hother⟩
  · split at hother
    · next ht => exact .inr ⟨ht.symm, Option.some.inj hother⟩
    · exact absurd hother (by simp)

theorem touches_iff (h : Leads g id x relation) :
    relation.Touches v ↔ v = id ∨ v = relation.far x.2 := by
  rcases h.ends with ⟨hs, ht⟩ | ⟨ht, hs⟩
  · exact ⟨fun hv => hv.imp (fun he => he.symm.trans hs) (fun he => he.symm.trans ht),
      fun hv => hv.imp (fun he => hs.trans he.symm) (fun he => ht.trans he.symm)⟩
  · exact ⟨fun hv => (hv.imp (fun he => he.symm.trans hs) (fun he => he.symm.trans ht)).symm,
      fun hv => (hv.imp (fun he => ht.trans he.symm) (fun he => hs.trans he.symm)).symm⟩

/-- A relation leads to another node. -/
theorem far_ne (h : Leads g id x relation) (hg : g.WellFormed) : relation.far x.2 ≠ id := by
  have hne := hg.ends_differ h.get
  rcases h.ends with ⟨hs, ht⟩ | ⟨ht, hs⟩
  · rw [← hs, ← ht]
    exact hne.symm
  · rw [← hs, ← ht]
    exact hne

/-- A relation is read forward from its source, and backward from its target. -/
theorem direction_eq (h : Leads g id x relation) (hg : g.WellFormed) :
    x.2 = if id = relation.source then .forward else .backward := by
  have hne := hg.ends_differ h.get
  rcases h.ends with ⟨hs, ht⟩ | ⟨ht, hs⟩
  · rw [if_pos hs.symm]
    cases hx : x.2 with
    | forward => rfl
    | backward =>
        rw [hx] at ht
        exact absurd ht.symm hne
  · rw [if_neg fun heq => hne (heq.symm.trans ht.symm)]
    cases hx : x.2 with
    | forward =>
        rw [hx] at hs
        exact absurd hs hne
    | backward => rfl

end Leads

/-- The relations of a node lead away from it. -/
theorem exists_leads_of_mem_ends (hg : g.WellFormed) {id : NodeId} {node : Node}
    (hn : g.nodes.get? id = some node) {x : RelationId × Relation.Direction} (hx : x ∈ ends node) :
    ∃ relation, Leads g id x relation := by
  rw [Query.ends, List.mem_append, List.mem_map, List.mem_map] at hx
  rcases hx with ⟨r, hr, rfl⟩ | ⟨r, hr, rfl⟩
  · obtain ⟨relation, hget, hs⟩ := (hg.mem_outgoing hn).1 hr
    exact ⟨relation, hget, by rw [Relation.other, if_pos hs.symm]; rfl⟩
  · obtain ⟨relation, hget, ht⟩ := (hg.mem_incoming hn).1 hr
    have hs : id ≠ relation.source := fun heq => hg.ends_differ hget (heq.symm.trans ht.symm)
    exact ⟨relation, hget, by rw [Relation.other, if_neg hs, if_pos ht.symm]; rfl⟩

theorem map_fst_ends (node : Node) : (ends node).map Prod.fst = node.outgoing ++ node.incoming := by
  simp [ends, Function.comp_def]

/-- Every relation that touches a node is read from it, in one of the directions. -/
theorem mem_map_ends (hg : g.WellFormed) {id : NodeId} {node : Node}
    (hn : g.nodes.get? id = some node) {r : RelationId} {relation : Relation}
    (hr : g.relations.get? r = some relation) (ht : relation.Touches id) :
    r ∈ (ends node).map Prod.fst := by
  have hm := (hg.mem_incident hn).2 ⟨relation, hr, ht⟩
  rw [map_fst_ends]
  simpa [or_comm] using hm

/-! ## Marks -/

/-- Every relation that has been met is in the graph, and both of its ends have been met. -/
def EndsMet (g : Graph) (seen : Seen) : Prop :=
  ∀ r ∈ seen.relations, ∃ relation, g.relations.get? r = some relation ∧
    ∀ v, relation.Touches v → v ∈ seen.nodes

/-- Every relation of a node has been met. -/
def Finished (g : Graph) (seen : Seen) (v : NodeId) : Prop :=
  ∀ r relation, g.relations.get? r = some relation → relation.Touches v → r ∈ seen.relations

/-- The relations of a node `id` are being read, and `path` are the nodes on the way to it, the
nearest first. -/
structure Open (g : Graph) (path : List NodeId) (id : NodeId) (seen : Seen) : Prop where
  here : id ∈ seen.nodes
  ends_met : EndsMet g seen
  /-- There is no node that is neither finished nor on the way. -/
  finished : ∀ v ∈ seen.nodes, v ∈ id :: path ∨ Finished g seen v

namespace Open

variable {path : List NodeId} {id : NodeId} {seen : Seen} {x : RelationId × Relation.Direction}
  {relation : Relation}

/-- The search begins at a node with nothing else met. -/
theorem start (g : Graph) (id : NodeId) : Open g [] id (Seen.enter {} id) where
  here := List.mem_cons_self ..
  ends_met := fun _ hr => absurd hr List.not_mem_nil
  finished := fun _ hv => .inl hv

/-- The search goes on along a relation to a node that it leads to. -/
theorem enter (h : Open g path id seen) (hleads : Leads g id x relation) :
    Open g (id :: path) (relation.far x.2) ((seen.mark x.1).enter (relation.far x.2)) where
  here := List.mem_cons_self ..
  ends_met := by
    intro r hr
    rcases List.mem_cons.1 hr with rfl | hr
    · refine ⟨relation, hleads.get, fun v hv => ?_⟩
      rcases hleads.touches_iff.1 hv with rfl | rfl
      · exact List.mem_cons_of_mem _ h.here
      · exact List.mem_cons_self ..
    · obtain ⟨relation', hget, hends⟩ := h.ends_met r hr
      exact ⟨relation', hget, fun v hv => List.mem_cons_of_mem _ (hends v hv)⟩
  finished := by
    intro v hv
    rcases List.mem_cons.1 hv with rfl | hv
    · exact .inl (List.mem_cons_self ..)
    · rcases h.finished v hv with hpath | hfinished
      · exact .inl (List.mem_cons_of_mem _ hpath)
      · exact .inr fun r relation' hget ht =>
          List.mem_cons_of_mem _ (hfinished r relation' hget ht)

/-- Entering a node that has been met changes nothing. -/
theorem of_mem (h : Open g path id (seen.enter id)) (hid : id ∈ seen.nodes) :
    Open g path id seen where
  here := hid
  ends_met := by
    intro r hr
    obtain ⟨relation, hget, hends⟩ := h.ends_met r hr
    refine ⟨relation, hget, fun v hv => ?_⟩
    rcases List.mem_cons.1 (hends v hv) with rfl | hv
    · exact hid
    · exact hv
  finished := fun v hv => h.finished v (List.mem_cons_of_mem _ hv)

/-- There are no cross edges: a relation that has not been met leads to a node on the way if it
leads to one that has been met. -/
theorem mem_path (h : Open g path id seen) (hg : g.WellFormed) (hleads : Leads g id x relation)
    (hnew : x.1 ∉ seen.relations) (hfar : relation.far x.2 ∈ seen.nodes) :
    relation.far x.2 ∈ path := by
  rcases h.finished _ hfar with hpath | hfinished
  · rcases List.mem_cons.1 hpath with hid | hpath
    · exact absurd hid (hleads.far_ne hg)
    · exact hpath
  · exact absurd (hfinished x.1 relation hleads.get (relation.touches_far x.2)) hnew

/-- The search comes back from a node to which it has gone on. -/
theorem leave {back : NodeId} (h : Open g (back :: path) id seen) (hback : back ∈ seen.nodes)
    (hid : id ∈ back :: path ∨ Finished g seen id) : Open g path back seen where
  here := hback
  ends_met := h.ends_met
  finished := by
    intro v hv
    rcases h.finished v hv with hpath | hfinished
    · rcases List.mem_cons.1 hpath with rfl | hpath
      · exact hid
      · exact .inl hpath
    · exact .inr hfinished

end Open

/-! ## Reading keeps the search in order -/

section

variable [Pattern.Dialect]

theorem Visits.finished (hg : g.WellFormed) {id : NodeId} {seen seen' : Seen} {e : Expr}
    (h : Visits g labels groupLabels id seen e seen') :
    id ∈ seen.nodes ∨ Finished g seen' id := by
  cases h with
  | back hlabel hold => exact .inl hold
  | first hlabel hnew hnode hreads =>
      refine .inr fun r relation hget ht => ?_
      obtain ⟨x, hx, rfl⟩ := List.mem_map.1 (mem_map_ends hg hnode hget ht)
      exact hreads.met x hx

/-- The search is at the same node again when a target has been visited. -/
theorem Open.after_visit (hg : g.WellFormed) {path : List NodeId} {id : NodeId}
    {seen between : Seen} {x : RelationId × Relation.Direction} {relation : Relation}
    {target : Expr} (ho : Open g path id seen)
    (htarget : Visits g labels groupLabels (relation.far x.2) (seen.mark x.1) target between)
    (hin : Open g (id :: path) (relation.far x.2) between) : Open g path id between := by
  refine hin.leave (htarget.mem_nodes ho.here) ?_
  -- If the target had been met before, nothing was read there, and it is what it was.
  rcases htarget.finished hg with hold | hfinished
  · refine (ho.finished _ hold).imp_right fun hf r relation hget ht => ?_
    exact htarget.mem_relations (List.mem_cons_of_mem _ (hf r relation hget ht))
  · exact .inr hfinished

mutual

theorem Visits.open (hg : g.WellFormed) {path : List NodeId} {id : NodeId} {seen seen' : Seen}
    {e : Expr} (h : Visits g labels groupLabels id seen e seen')
    (ho : Open g path id (seen.enter id)) : Open g path id seen' :=
  match h with
  | .back _ hold => ho.of_mem hold
  | .first _ _ _ hreads => hreads.open hg ho

/-- What is on the way stays on the way, and all else that is met gets finished. -/
theorem Reads.open (hg : g.WellFormed) {path : List NodeId} {id : NodeId}
    {es : List (RelationId × Relation.Direction)} {seen seen' : Seen} {cs : List (Clause Expr)}
    (h : Reads g labels groupLabels id es seen cs seen') (ho : Open g path id seen) :
    Open g path id seen' :=
  match h with
  | .nil => ho
  | .skip _ hrest => hrest.open hg ho
  | .read _ hleads htarget hrest =>
      hrest.open hg (ho.after_visit hg htarget (htarget.open hg (ho.enter hleads)))

end

/-- A clause is written while the search is at the node that owns it, for a relation of the node
that has not been met. -/
theorem Reads.clause (hg : g.WellFormed) {path : List NodeId} {id : NodeId}
    {es : List (RelationId × Relation.Direction)} {seen seen' : Seen} {cs : List (Clause Expr)}
    (h : Reads g labels groupLabels id es seen cs seen') (ho : Open g path id seen)
    {c : Clause Expr} (hc : c ∈ cs) :
    ∃ dir relation before after, Open g path id before ∧ c.relation ∉ before.relations ∧
      Leads g id (c.relation, dir) relation ∧ c.operator = relation.operator dir ∧
      Visits g labels groupLabels (relation.far dir) (before.mark c.relation) c.target after := by
  induction es generalizing seen cs with
  | nil =>
      cases h
      exact absurd hc List.not_mem_nil
  | cons x rest ih =>
      cases h with
      | skip hmet hrest => exact ih hrest ho hc
      | read hnew hleads htarget hrest =>
          rcases List.mem_cons.1 hc with rfl | hc
          · exact ⟨_, _, _, _, ho, hnew, hleads, rfl, htarget⟩
          · exact ih hrest (ho.after_visit hg htarget (htarget.open hg (ho.enter hleads))) hc

/-! ## Places -/

/-- Wherever a mention stands, it was written by a visit, and the first mentions of the nodes on the
way to it enclose it. -/
theorem Visits.at_place (hg : g.WellFormed) {path : List NodeId} {id : NodeId} {seen seen' : Seen}
    {e d : Expr} {place : List Nat} (h : Visits g labels groupLabels id seen e seen')
    (ho : Open g path id (seen.enter id)) (hd : e.at? place = some d) :
    ∃ way u before after, Visits g labels groupLabels u before d after ∧
      Open g (way ++ path) u (before.enter u) ∧ ∀ v ∈ way, e.Encloses place v := by
  induction place generalizing path id seen e seen' with
  | nil =>
      obtain rfl : e = d := Option.some.inj hd
      exact ⟨[], id, seen, seen', h, ho, fun _ hv => absurd hv List.not_mem_nil⟩
  | cons i place ih =>
      obtain ⟨_, _, _, _, _, c, rfl, hc, htail⟩ := Expr.at?_cons_eq_some_iff.1 hd
      cases h with
      | first hlabel hnew hnode hreads =>
          obtain ⟨dir, relation, between, _, hbetween, -, hleads, -, htarget⟩ :=
            hreads.clause hg ho (List.mem_of_getElem? hc)
          obtain ⟨way, u, before, after, hvisits, hopen, hway⟩ :=
            ih htarget (hbetween.enter hleads) htail
          refine ⟨way ++ [id], u, before, after, hvisits, by simpa using hopen, fun v hv => ?_⟩
          rcases List.mem_append.1 hv with hv | hv
          · exact Expr.encloses_of_target hc (hway v hv)
          · obtain rfl := List.mem_singleton.1 hv
            exact Expr.encloses_root

/-- A first mention shows the pattern and the groups of its node. -/
theorem Visits.define_eq (hg : g.WellFormed) {start u : NodeId} {seen : Seen} {e : Expr}
    {place : List Nat} (h : Visits g labels groupLabels start {} e seen) {pattern label : String}
    {groups : List (Nat × String)} {clauses : List (Clause Expr)}
    (hd : e.at? place = some (.define u pattern groups label clauses)) :
    ∃ node, g.nodes.get? u = some node ∧ pattern = node.pattern ∧
      groups = shownGroups groupLabels node := by
  obtain ⟨_, _, _, _, hvisits, -, -⟩ := h.at_place hg (.start g start) hd
  cases hvisits with
  | first hlabel hnew hnode hreads => exact ⟨_, hnode, rfl, rfl⟩

end

/-! ## A graph with cycles -/

/-- A graph with a cycle of four nodes, an opposite pair across it and a parallel pair. -/
def knot : Graph :=
  .replay .empty [.createNode "a", .createNode "b", .createNode "c", .createNode "d",
    .createRelation ⟨0⟩ ⟨1⟩ {}, .createRelation ⟨0⟩ ⟨2⟩ {}, .createRelation ⟨1⟩ ⟨3⟩ {},
    .createRelation ⟨3⟩ ⟨2⟩ {}, .createRelation ⟨2⟩ ⟨0⟩ {}, .createRelation ⟨0⟩ ⟨1⟩ {}]

theorem buildable_knot : knot.Buildable := ⟨_, rfl⟩

/-- What is read off the expression of a compilation can be found by running it. -/
theorem eq_of_compileFrom_map [Pattern.Dialect] {α : Type} {start : NodeId} {config : Config}
    {c : Compiled} {e : Expr} {f : Expr → α} {a : α} (hc : g.compileFrom start config = .ok c)
    (he : c.expr = some e)
    (h : (g.compileFrom start config).toOption.bind (·.expr.map f) = some a) : f e = a := by
  rw [hc] at h
  simpa [Except.toOption, he] using h

end TreeQuery.Query
