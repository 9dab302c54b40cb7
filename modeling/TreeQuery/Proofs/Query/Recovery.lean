import TreeQuery.Proofs.Query.Coverage
import TreeQuery.Proofs.Query.Matching
import TreeQuery.Proofs.Query.Scope
import TreeQuery.Proofs.Relation.Operator

set_option autoImplicit false

/-! # A query determines what it was compiled from

If labels tell the nodes apart and the characters that separate the parts of a query do not stand
inside them (`Graph.Legible`), then the text of a query determines the nodes and the relations that
were reached, up to their handles: two graphs with the same text correspond there
(`Query.exists_correspondence_of_text_eq`). The text determines the expression but for its handles;
first mentions pair the nodes off, clauses the relations, and an end of a relation is found by its
label, also where it is only referred back to. -/

namespace TreeQuery

/-- Two relations are the same when the nodes of one graph are sent to those of another. Only
siblings can be related the other way round. -/
structure Relation.Corresponds (f : NodeId → NodeId) (r r' : Relation) : Prop where
  agrees : r.descriptor.Agrees r'.descriptor
  ends : (r'.source = f r.source ∧ r'.target = f r.target) ∨
    (r.descriptor.kind = .sibling ∧ r'.source = f r.target ∧ r'.target = f r.source)

namespace Graph

/-- The part of a graph that consists of some nodes and their relations can be read from a query:
labels tell the nodes apart, and nothing that is written contains what ends it. -/
structure Legible [Pattern.Dialect] (g : Graph) (labels : LabelTable) (nodes : List NodeId) :
    Prop where
  labels_differ : ∀ u ∈ nodes, ∀ v ∈ nodes, labels.name? u = labels.name? v → u = v
  plain_label : ∀ v ∈ nodes, ∀ name ∈ labels.name? v, Expr.PlainLabel name
  plain_node : ∀ v ∈ nodes, ∀ node ∈ g.nodes.get? v, node.pattern ≠ "" ∧
    Expr.PlainName node.pattern ∧ ∀ group ∈ node.activeGroups, Expr.PlainName group.2
  plain_via : ∀ r ∈ g.relationsAt nodes, ∀ relation ∈ g.relations.get? r,
    relation.descriptor.kind.hasViaArg = true → ' ' ∉ relation.descriptor.via.toList

/-- Two graphs are the same on some nodes and their relations, up to handles. -/
structure Correspondence [Pattern.Dialect] (g g' : Graph) (labels labels' : LabelTable)
    (nodes nodes' : List NodeId) (f : NodeId → NodeId) (ρ : RelationId → RelationId) : Prop where
  nodes_bijOn : Set.BijOn f {v | v ∈ nodes} {v | v ∈ nodes'}
  node : ∀ v ∈ nodes, ∃ node node', g.nodes.get? v = some node ∧
    g'.nodes.get? (f v) = some node' ∧ node'.pattern = node.pattern ∧
    node'.activeGroups = node.activeGroups ∧ labels'.name? (f v) = labels.name? v
  relations_bijOn : Set.BijOn ρ {r | r ∈ g.relationsAt nodes} {r | r ∈ g'.relationsAt nodes'}
  relation : ∀ r ∈ g.relationsAt nodes, ∃ relation relation', g.relations.get? r = some relation ∧
    g'.relations.get? (ρ r) = some relation' ∧ relation.Corresponds f relation'

end Graph

/-- A clause is written with the operator of its relation in the direction from the node that owns
the clause to that of the target. -/
theorem Clause.Renders.exists_direction {g : Graph} {u : NodeId} {c : Clause Expr}
    (h : c.Renders g u) : ∃ relation dir, g.relations.get? c.relation = some relation ∧
      c.operator = relation.descriptor.operator dir ∧
      ((dir = .forward ∧ relation.source = u ∧ relation.target = c.target.node) ∨
        (dir = .backward ∧ relation.source = c.target.node ∧ relation.target = u)) := by
  obtain ⟨relation, hget, hother, hoperator⟩ := h
  refine ⟨relation, _, hget, hoperator, ?_⟩
  rw [Relation.other] at hother
  split at hother
  · next hsource =>
    rw [if_pos hsource]
    exact .inl ⟨rfl, hsource.symm, Option.some.inj hother⟩
  · next hsource =>
    rw [if_neg hsource]
    split at hother
    · next htarget => exact .inr ⟨rfl, Option.some.inj hother, htarget.symm⟩
    · exact absurd hother (by simp)

namespace Query

variable {g g' : Graph} {labels labels' : LabelTable} {groupLabels : Bool} {start start' : NodeId}
  {seen seen' : Seen} {e e' d : Expr}

/-- What is legible in a graph is readable in the expression. -/
theorem Visits.readable [Pattern.Dialect] (hg : g.WellFormed)
    (h : Visits g labels true start {} e seen) (hlegible : g.Legible labels e.nodes) :
    e.Readable := by
  intro place d hd
  have hmem := h.node_mem_nodes hg hd
  have hlabel := hlegible.plain_label _ hmem _ (h.name?_node hg hd)
  cases d with
  | backRef v name => exact hlabel
  | define u pattern groups label clauses =>
      obtain ⟨node, hn, rfl, rfl⟩ := h.define_eq hg hd
      obtain ⟨hne, hpattern, hgroups⟩ := hlegible.plain_node u hmem node hn
      refine ⟨hne, hpattern, hgroups, hlabel, fun c hc => ?_⟩
      have hrenders := ((h.renders hg).clauses _ _ _ _ _ _ hd).1 c hc
      obtain ⟨relation, dir, hget, hoperator, hends⟩ := hrenders.exists_direction
      have htouches : relation.Touches u := hends.imp (fun hs => hs.2.1) (fun ht => ht.2.2)
      have hat := Graph.mem_relationsAt.2 ⟨relation, hget, u, hmem, htouches⟩
      rw [hoperator]
      exact Relation.Descriptor.not_mem_operator (by decide) (by decide)
        (hlegible.plain_via _ hat _ hget) dir

/-! ## Links -/

/-- A clause with the mention that owns it says what relation there is between which nodes. -/
structure Link (g : Graph) (labels : LabelTable) (nodes : List NodeId) (owner : Expr)
    (c : Clause Expr) : Prop where
  owner_mem : owner.node ∈ nodes
  owner_name : labels.name? owner.node = some owner.label
  target_mem : c.target.node ∈ nodes
  target_name : labels.name? c.target.node = some c.target.label
  renders : c.Renders g owner.node

theorem Visits.link [Pattern.Dialect] (hg : g.WellFormed)
    (h : Visits g labels groupLabels start {} e seen) {l : Expr × Clause Expr} (hl : l ∈ e.links) :
    Link g labels e.nodes l.1 l.2 := by
  obtain ⟨d, hd, hl⟩ := List.mem_flatMap.1 hl
  obtain ⟨c, hc, rfl⟩ := List.mem_map.1 hl
  obtain ⟨hdefines, place, hplace⟩ := Expr.exists_at?_of_mem_firsts e hd
  obtain ⟨pattern, groups, label, clauses, hdefine⟩ := Expr.defines?_eq_some_iff.1 hdefines
  rw [hdefine] at hplace hc
  obtain ⟨i, hi⟩ := List.getElem?_of_mem hc
  have htarget : e.at? (place ++ [i]) = some c.target :=
    Expr.at?_concat_eq_some_iff.2 ⟨_, _, _, _, _, c, hplace, hi, rfl⟩
  have hrenders := ((h.renders hg).clauses _ _ _ _ _ _ hplace).1 c hc
  rw [← hdefine] at hplace
  exact ⟨h.node_mem_nodes hg hplace, h.name?_node hg hplace, h.node_mem_nodes hg htarget,
    h.name?_node hg htarget, hrenders⟩

/-- Clauses with the same operator between nodes that correspond are those of relations that
correspond. -/
theorem Link.exists_relations {nodes nodes' : List NodeId} {owner owner' : Expr}
    {c c' : Clause Expr} {f : NodeId → NodeId} (h : Link g labels nodes owner c)
    (h' : Link g' labels' nodes' owner' c') (hoperator : c.operator = c'.operator)
    (howner : f owner.node = owner'.node) (htarget : f c.target.node = c'.target.node) :
    ∃ relation relation', g.relations.get? c.relation = some relation ∧
      g'.relations.get? c'.relation = some relation' ∧ relation.Corresponds f relation' := by
  obtain ⟨relation, dir, hget, hwritten, hends⟩ := h.renders.exists_direction
  obtain ⟨relation', dir', hget', hwritten', hends'⟩ := h'.renders.exists_direction
  rw [hwritten, hwritten'] at hoperator
  have hface := Relation.Descriptor.face_eq_of_operator_eq hoperator
  have hdir := Relation.Descriptor.direction_eq_of_face_eq hface
  refine ⟨relation, relation', hget, hget', Relation.Descriptor.agrees_of_face_eq hface, ?_⟩
  rcases hends with ⟨rfl, hs, ht⟩ | ⟨rfl, hs, ht⟩ <;>
    rcases hends' with ⟨rfl, hs', ht'⟩ | ⟨rfl, hs', ht'⟩ <;>
    rw [hs, ht, hs', ht', howner, htarget]
  · exact .inl ⟨rfl, rfl⟩
  · exact .inr ⟨hdir.resolve_left (by simp), rfl, rfl⟩
  · exact .inr ⟨hdir.resolve_left (by simp), rfl, rfl⟩
  · exact .inl ⟨rfl, rfl⟩

/-! ## Correspondence -/

/-- What a first mention shows is its node. -/
theorem Visits.exists_node [Pattern.Dialect] (hg : g.WellFormed)
    (h : Visits g labels true start {} e seen) (hd : d ∈ e.firsts) :
    ∃ node clauses, g.nodes.get? d.node = some node ∧
      labels.name? d.node = some d.label ∧
      d = .define d.node node.pattern node.activeGroups d.label clauses := by
  obtain ⟨hdefines, place, hplace⟩ := Expr.exists_at?_of_mem_firsts e hd
  have hname := h.name?_node hg hplace
  obtain ⟨pattern, groups, label, clauses, hdefine⟩ := Expr.defines?_eq_some_iff.1 hdefines
  rw [hdefine] at hplace
  obtain ⟨node, hn, rfl, rfl⟩ := h.define_eq hg hplace
  refine ⟨node, clauses, hn, hname, hdefine.trans ?_⟩
  rw [hdefine]
  rfl

/-- Expressions that differ in handles only come from graphs that correspond, if labels tell the
nodes apart. -/
theorem Visits.exists_correspondence [Pattern.Dialect] (hg : g.WellFormed) (hg' : g'.WellFormed)
    (h : Visits g labels true start {} e seen) (h' : Visits g' labels' true start' {} e' seen')
    (hdiffer : ∀ u ∈ e'.nodes, ∀ v ∈ e'.nodes, labels'.name? u = labels'.name? v → u = v)
    (hbare : e.bare = e'.bare) :
    ∃ f ρ, f start = start' ∧ g.Correspondence g' labels labels' e.nodes e'.nodes f ρ := by
  obtain ⟨f, hf, hfirsts⟩ := Expr.exists_nodes_bijOn hbare h.nodup_expr.1 h'.nodup_expr.1
  obtain ⟨ρ, hρ, hlinks⟩ := Expr.exists_relations_bijOn hbare h.nodup_expr.2 h'.nodup_expr.2
  have hnode : ∀ v ∈ e.nodes, ∃ node node', g.nodes.get? v = some node ∧
      g'.nodes.get? (f v) = some node' ∧ node'.pattern = node.pattern ∧
      node'.activeGroups = node.activeGroups ∧ labels'.name? (f v) = labels.name? v := by
    intro v hv
    rw [← e.map_node_firsts] at hv
    obtain ⟨d, hd, rfl⟩ := List.mem_map.1 hv
    obtain ⟨d', hd', hf, hd''⟩ := hfirsts d hd
    obtain ⟨node, clauses, hn, hname, hdefine⟩ := h.exists_node hg hd
    obtain ⟨node', clauses', hn', hname', hdefine'⟩ := h'.exists_node hg' hd'
    rw [hdefine, hdefine'] at hd''
    obtain ⟨-, hpattern, hgroups, hlabel, -⟩ := Expr.define.inj hd''
    exact ⟨node, node', hn, hf ▸ hn', hpattern.symm, hgroups.symm,
      by rw [hf, hname', hname, hlabel]⟩
  -- A node is found by its label.
  have hsame : ∀ v ∈ e.nodes, ∀ v' ∈ e'.nodes, labels.name? v = labels'.name? v' → f v = v' := by
    intro v hv v' hv' hname
    obtain ⟨_, _, -, -, -, -, hlabel⟩ := hnode v hv
    exact hdiffer _ (hf.mapsTo hv) v' hv' (hlabel.trans hname)
  refine ⟨f, ρ, ?_, hf, hnode, ?_, fun r hr => ?_⟩
  · have hroot := h.node_mem_nodes hg (show e.at? [] = some e from rfl)
    have hroot' := h'.node_mem_nodes hg' (show e'.at? [] = some e' from rfl)
    have hlabel : e.label = e'.label := by rw [← e.label_bare, hbare, e'.label_bare]
    rw [h.node_eq] at hroot
    rw [h'.node_eq] at hroot'
    exact hsame start hroot start' hroot' (by rw [h.name?_eq, h'.name?_eq, hlabel])
  · simpa only [h.mem_relations_iff hg, h'.mem_relations_iff hg'] using hρ
  · rw [← h.mem_relations_iff hg, ← e.map_relation_links.mem_iff] at hr
    obtain ⟨l, hl, rfl⟩ := List.mem_map.1 hr
    obtain ⟨l', hl', hρr, howner, hclause⟩ := hlinks l hl
    obtain ⟨-, hoperator, htarget⟩ := Clause.mk.inj hclause
    have hlink := h.link hg hl
    have hlink' := h'.link hg' hl'
    have howners : f l.1.node = l'.1.node := by
      refine hsame _ hlink.owner_mem _ hlink'.owner_mem ?_
      rw [hlink.owner_name, hlink'.owner_name, ← l.1.label_bare, howner, l'.1.label_bare]
    have htargets : f l.2.target.node = l'.2.target.node := by
      refine hsame _ hlink.target_mem _ hlink'.target_mem ?_
      rw [hlink.target_name, hlink'.target_name, ← l.2.target.label_bare, htarget,
        l'.2.target.label_bare]
    rw [hρr]
    exact hlink.exists_relations hlink' hoperator howners htargets

/-- **A query determines what it was compiled from.** If two compilations, with named groups, of
what is legible give the same text, then the nodes and the relations that were reached correspond,
and so do the nodes from which they were reached. -/
theorem exists_correspondence_of_text_eq [Pattern.Dialect] (hg : g.Buildable) (hg' : g'.Buildable)
    {config config' : Config} {c c' : Compiled} {nodes nodes' : List NodeId}
    (hc : g.compileFrom start config = .ok c) (hc' : g'.compileFrom start' config' = .ok c')
    (hgroups : config.groupLabels = true) (hgroups' : config'.groupLabels = true)
    (hreachable : g.reachable start = .ok nodes) (hreachable' : g'.reachable start' = .ok nodes')
    (hlegible : g.Legible c.labels nodes) (hlegible' : g'.Legible c'.labels nodes')
    (htext : c.text = c'.text) :
    ∃ f ρ, f start = start' ∧ g.Correspondence g' c.labels c'.labels nodes nodes' f ρ := by
  obtain ⟨e, seen, htraverse, rfl⟩ := eq_of_compileFrom hc
  obtain ⟨e', seen', htraverse', rfl⟩ := eq_of_compileFrom hc'
  rw [hgroups] at htraverse
  rw [hgroups'] at htraverse'
  have hvisits := visits_of_visit htraverse
  have hvisits' := visits_of_visit htraverse'
  have hwell := hg.wellFormed
  have hwell' := hg'.wellFormed
  obtain rfl := Except.ok.inj ((hvisits.reachable_eq hwell).symm.trans hreachable)
  obtain rfl := Except.ok.inj ((hvisits'.reachable_eq hwell').symm.trans hreachable')
  have hbare := Expr.bare_eq_of_text_eq (hvisits.readable hwell hlegible)
    (hvisits'.readable hwell' hlegible') htext
  exact hvisits.exists_correspondence hwell hwell' hvisits' hlegible'.labels_differ hbare

/-- A triangle with generated labels. -/
def draft : Graph :=
  .replay .empty [.createNode "a(x)", .createNode "b", .createNode "c",
    .editNode ⟨0⟩ (.setGroupLabel 0 "k"), .createRelation ⟨0⟩ ⟨1⟩ { kind := .sibling },
    .createRelation ⟨1⟩ ⟨2⟩ { kind := .nthChild, n := ⟨3, by decide, by decide⟩ },
    .createRelation ⟨2⟩ ⟨0⟩ { kind := .descendantVia, via := "v" }]

/-- The same triangle besides another node, with labels of its own and the siblings related the
other way round. -/
def redraft : Graph :=
  .replay .empty [.createNode "z", .createNode "b", .createNode "a(x)", .createNode "c",
    .editNode ⟨1⟩ (.setLabel "___g1"), .editNode ⟨2⟩ (.setLabel "___g0"),
    .editNode ⟨3⟩ (.setLabel "___g2"), .editNode ⟨2⟩ (.setGroupLabel 0 "k"),
    .createRelation ⟨1⟩ ⟨2⟩ { kind := .sibling, via := "unused" },
    .createRelation ⟨1⟩ ⟨3⟩ { kind := .nthChild, n := ⟨3, by decide, by decide⟩ },
    .createRelation ⟨3⟩ ⟨2⟩ { kind := .descendantVia, via := "v" }]

theorem buildable_draft : draft.Buildable := ⟨_, rfl⟩

theorem buildable_redraft : redraft.Buildable := ⟨_, rfl⟩

theorem correspondence_redraft : ∃ c c' f ρ, draft.compileFrom ⟨0⟩ {} = .ok c ∧
    redraft.compileFrom ⟨2⟩ {} = .ok c' ∧
    c.text = "a(x)#1%k=___g0 $ (b=___g1 >3 (c=___g2 >+(v) (=___g0)))" ∧ c'.text = c.text ∧
    f ⟨0⟩ = ⟨2⟩ ∧ draft.Correspondence redraft c.labels c'.labels [⟨0⟩, ⟨1⟩, ⟨2⟩]
      [⟨2⟩, ⟨1⟩, ⟨3⟩] f ρ := by
  obtain ⟨c, hc, htext, hlabels⟩ : ∃ c, draft.compileFrom ⟨0⟩ {} = .ok c ∧
      c.text = "a(x)#1%k=___g0 $ (b=___g1 >3 (c=___g2 >+(v) (=___g0)))" ∧
      c.labels = .assign draft "___g" := ⟨_, rfl, by decide +kernel, rfl⟩
  obtain ⟨c', hc', htext', hlabels'⟩ : ∃ c, redraft.compileFrom ⟨2⟩ {} = .ok c ∧
      c.text = "a(x)#1%k=___g0 $ (b=___g1 >3 (c=___g2 >+(v) (=___g0)))" ∧
      c.labels = .assign redraft "___g" := ⟨_, rfl, by decide +kernel, rfl⟩
  have hreachable : draft.reachable ⟨0⟩ = .ok [⟨0⟩, ⟨1⟩, ⟨2⟩] :=
    reachable_of_compileFrom_map buildable_draft {} rfl
  have hreachable' : redraft.reachable ⟨2⟩ = .ok [⟨2⟩, ⟨1⟩, ⟨3⟩] :=
    reachable_of_compileFrom_map buildable_redraft {} rfl
  have hlegible : draft.Legible c.labels [⟨0⟩, ⟨1⟩, ⟨2⟩] := by
    rw [hlabels]
    exact ⟨by decide, by decide, by decide +kernel, by decide⟩
  have hlegible' : redraft.Legible c'.labels [⟨2⟩, ⟨1⟩, ⟨3⟩] := by
    rw [hlabels']
    exact ⟨by decide, by decide, by decide +kernel, by decide⟩
  obtain ⟨f, ρ, hstart, hcorrespondence⟩ := exists_correspondence_of_text_eq buildable_draft
    buildable_redraft hc hc' rfl rfl hreachable hreachable' hlegible hlegible'
    (htext.trans htext'.symm)
  exact ⟨c, c', f, ρ, hc, hc', htext, htext'.trans htext.symm, hstart, hcorrespondence⟩

end Query

end TreeQuery
