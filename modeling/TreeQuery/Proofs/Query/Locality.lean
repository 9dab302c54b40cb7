import TreeQuery.Proofs.Query.Mirror
import TreeQuery.Proofs.Query.Outcome

set_option autoImplicit false

/-! # Queries are local

The query of a node does not depend on what lies outside its component, with one exception:
generated labels are numbered through the whole graph and keep clear of the labels that users have
given anywhere. So two graphs with the same component give the same expression, up to an exchange of
generated labels, and where all labels are users' labels the same text
(`compileFrom_of_sameComponent`). -/

namespace TreeQuery

/-- In exchange for the label of a node: its generated label if it has one, otherwise the same. -/
def LabelTable.exchange (t : LabelTable) (id : NodeId) (label : String) : String :=
  if t.isGenerated id then (t.name? id).getD label else label

namespace LabelTable

variable {g g' : Graph} {stem stem' name : String} {id : NodeId} {node : Node}

/-- Two graphs that keep the same of a node give it the same label, up to an exchange. -/
theorem name?_exchange (hn : g.nodes.get? id = some node) (hn' : g'.nodes.get? id = some node)
    (hname : (assign g stem).name? id = some name) :
    (assign g' stem').name? id = some ((assign g' stem').exchange id name) := by
  rw [exchange, isGenerated_assign stem' hn']
  cases hown : node.hasLabel with
  | true =>
      rw [name?_assign_of_hasLabel hn hown] at hname
      rw [name?_assign_of_hasLabel hn' hown, hname]
      rfl
  | false =>
      obtain ⟨name', hname'⟩ := exists_name?_assign stem' (OrderedMap.mem_keys_iff.2 ⟨node, hn'⟩)
      rw [hname']
      rfl

end LabelTable

namespace Graph

variable {g g' : Graph} {start : NodeId}

namespace SameComponent

variable [Pattern.Dialect]

/-- A component that is the same in two graphs is mirrored as soon as the labels are. -/
theorem mirrors (h : g.SameComponent g' start) (hg : g.WellFormed) (hstart : start ∈ g.nodes.keys)
    {labels labels' : LabelTable} {label : NodeId → String → String} (groupLabels : Bool)
    (hlabels : ∀ v node name, g.Joined start v → g.nodes.get? v = some node →
      g'.nodes.get? v = some node → labels.name? v = some name →
        labels'.name? v = some (label v name)) :
    Query.Mirrors { label } g labels groupLabels g' labels' groupLabels start where
  node_injective := Function.injective_id
  relation_injective := Function.injective_id
  nodes := fun hv hn => ⟨_, (h.nodes _ hv).trans hn, rfl, by simp, rfl⟩
  relations := fun hv hr ht => (h.relations _ hv _ _ ht).1 hr
  labels := by
    intro v name hv hname
    obtain ⟨node, hn⟩ := OrderedMap.mem_keys_iff.1 (hv.live hg hstart)
    exact hlabels v node name hv hn ((h.nodes v hv).trans hn) hname

theorem mirrors_exchange (h : g.SameComponent g' start) (hg : g.WellFormed)
    (hstart : start ∈ g.nodes.keys) (stem : String) (groupLabels : Bool) :
    Query.Mirrors { label := (LabelTable.assign g' stem).exchange } g (.assign g stem) groupLabels
      g' (.assign g' stem) groupLabels start :=
  h.mirrors hg hstart groupLabels fun _ _ _ _ hn hn' hname => LabelTable.name?_exchange hn hn' hname

/-- Where all labels are users' labels, nothing has to be exchanged. -/
theorem mirrors_own (h : g.SameComponent g' start) (hg : g.WellFormed)
    (hstart : start ∈ g.nodes.keys) (stem : String) (groupLabels : Bool)
    (hown : ∀ v node, g.Joined start v → g.nodes.get? v = some node → node.hasLabel = true) :
    Query.Mirrors {} g (.assign g stem) groupLabels g' (.assign g' stem) groupLabels start := by
  refine h.mirrors hg hstart groupLabels fun v node name hv hn hn' hname => ?_
  rw [LabelTable.name?_assign_of_hasLabel hn (hown v node hv hn)] at hname
  rw [LabelTable.name?_assign_of_hasLabel hn' (hown v node hv hn), hname]

end SameComponent

/-- **Queries are local.** Two graphs in which a live node has the same component give the same
expression there, up to an exchange of generated labels: the same nodes have one in both, and if no
node of the component has one, expression and text are the same. -/
theorem compileFrom_of_sameComponent [Pattern.Dialect] (hg : g.Buildable) (hg' : g'.Buildable)
    (hstart : start ∈ g.nodes.keys) (hsame : g.SameComponent g' start) {config : Config}
    (hpolicy : config.unreachable ≠ .error) :
    ∃ c c' e, g.compileFrom start config = .ok c ∧ g'.compileFrom start config = .ok c' ∧
      c.expr = some e ∧ c'.expr = some (e.rewrite { label := c'.labels.exchange }) ∧
      (∀ v, g.Joined start v → c.labels.isGenerated v = c'.labels.isGenerated v) ∧
      ((∀ v node, g.Joined start v → g.nodes.get? v = some node → node.hasLabel = true) →
        c'.expr = c.expr ∧ c'.text = c.text) := by
  have hwell := hg.wellFormed
  have hnodes := hsame.nodes start (.refl g start)
  have hstart' : start ∈ g'.nodes.keys := by
    rwa [OrderedMap.mem_keys_iff, hnodes, ← OrderedMap.mem_keys_iff]
  obtain ⟨c, hc⟩ := exists_ok_compileFrom hwell hstart hpolicy
  obtain ⟨c', hc'⟩ := exists_ok_compileFrom hg'.wellFormed hstart' hpolicy
  obtain ⟨e, he, he'⟩ :=
    (hsame.mirrors_exchange hwell hstart config.labelStem config.groupLabels).expr_eq hc hc'
  refine ⟨c, c', e, hc, hc', he, ?_, fun v hv => ?_, fun hown => ?_⟩
  · rw [he', Query.labels_of_compileFrom hc']
  · obtain ⟨node, hn⟩ := OrderedMap.mem_keys_iff.1 (hv.live hwell hstart)
    rw [Query.labels_of_compileFrom hc, Query.labels_of_compileFrom hc',
      LabelTable.isGenerated_assign _ hn,
      LabelTable.isGenerated_assign _ ((hsame.nodes v hv).trans hn)]
  · obtain ⟨d, hd, hd'⟩ :=
      (hsame.mirrors_own hwell hstart config.labelStem config.groupLabels hown).expr_eq hc hc'
    rw [Expr.rewrite_default] at hd'
    exact ⟨hd'.trans hd.symm, (Query.text_of_compileFrom hc' hd').trans
      (Query.text_of_compileFrom hc hd).symm⟩

/-- Two nodes, the second with a label, and a relation between them. -/
def alone (label : String) : Graph :=
  .replay .empty [.createNode "a", .createNode "b", .createRelation ⟨0⟩ ⟨1⟩ {},
    .editNode ⟨0⟩ (.setLabel label), .editNode ⟨1⟩ (.setLabel "x")]

/-- The same beside two other nodes, one of them the head, the other with the label that would be
generated first. -/
def crowded (label : String) : Graph :=
  .replay .empty [.createNode "a", .createNode "b", .createRelation ⟨0⟩ ⟨1⟩ {},
    .createNode "c", .createNode "d", .createRelation ⟨3⟩ ⟨2⟩ {}, .setHead ⟨3⟩,
    .editNode ⟨2⟩ (.setLabel "___g0"), .editNode ⟨0⟩ (.setLabel label),
    .editNode ⟨1⟩ (.setLabel "x")]

theorem buildable_alone (label : String) : (alone label).Buildable := ⟨_, rfl⟩

theorem buildable_crowded (label : String) : (crowded label).Buildable := ⟨_, rfl⟩

/-- Next to the crowd another label is generated, and users' labels stay. -/
theorem compileFrom_crowded :
    (∃ c c' e, (alone "").compileFrom ⟨0⟩ {} = .ok c ∧ (crowded "").compileFrom ⟨0⟩ {} = .ok c' ∧
      c.expr = some e ∧ c'.expr = some (e.rewrite { label := c'.labels.exchange }) ∧
      c.text = "a=___g0 >> (b=x)" ∧ c'.text = "a=___g1 >> (b=x)") ∧
    ∃ c c', (alone "y").compileFrom ⟨0⟩ {} = .ok c ∧ (crowded "y").compileFrom ⟨0⟩ {} = .ok c' ∧
      c'.expr = c.expr ∧ c'.text = c.text ∧ c.text = "a=y >> (b=x)" := by
  constructor
  · have hsame : (alone "").SameComponent (crowded "") ⟨0⟩ :=
      sameComponent_of_closed [⟨0⟩, ⟨1⟩] (by decide) (by decide) (by decide) (by decide)
    obtain ⟨c, c', e, hc, hc', he, he', -, -⟩ := compileFrom_of_sameComponent (buildable_alone "")
      (buildable_crowded "") (by decide) hsame (show ({} : Config).unreachable ≠ .error by decide)
    obtain ⟨d, hd, htext⟩ : ∃ d, (alone "").compileFrom ⟨0⟩ {} = .ok d ∧
        d.text = "a=___g0 >> (b=x)" := ⟨_, rfl, rfl⟩
    obtain ⟨d', hd', htext'⟩ : ∃ d, (crowded "").compileFrom ⟨0⟩ {} = .ok d ∧
        d.text = "a=___g1 >> (b=x)" := ⟨_, rfl, rfl⟩
    obtain rfl := Except.ok.inj (hc.symm.trans hd)
    obtain rfl := Except.ok.inj (hc'.symm.trans hd')
    exact ⟨c, c', e, hc, hc', he, he', htext, htext'⟩
  · have hsame : (alone "y").SameComponent (crowded "y") ⟨0⟩ :=
      sameComponent_of_closed [⟨0⟩, ⟨1⟩] (by decide) (by decide) (by decide) (by decide)
    have hown : ∀ x ∈ (alone "y").nodes.entries, x.2.hasLabel = true := by decide
    obtain ⟨c, c', e, hc, hc', -, -, -, hequal⟩ := compileFrom_of_sameComponent
      (buildable_alone "y") (buildable_crowded "y") (by decide) hsame
      (show ({} : Config).unreachable ≠ .error by decide)
    obtain ⟨hexpr, htext⟩ := hequal fun v node _ hn => hown _ (OrderedMap.get?_eq_some_iff.1 hn)
    obtain ⟨d, hd, hdtext⟩ : ∃ d, (alone "y").compileFrom ⟨0⟩ {} = .ok d ∧
        d.text = "a=y >> (b=x)" := ⟨_, rfl, rfl⟩
    obtain rfl := Except.ok.inj (hc.symm.trans hd)
    exact ⟨c, c', hc, hc', hexpr, htext, hdtext⟩

end Graph

end TreeQuery
