import TreeQuery.Proofs.Graph.Renaming
import TreeQuery.Proofs.Query.Locality

set_option autoImplicit false

/-! # Options do not interfere

The options of a compilation are read at different points: the stem when labels are assigned, the
switch for named groups in a check and in the search, the policy after the search. Two compilations
of a graph that differ in one option differ in what that option is about and in nothing else
(`options_do_not_interfere`). Both go the same way through the graph, which is a mirror of itself
when groups or labels are written differently (`mirrors_self`), so one equation says what becomes of
the other (`compileFrom_rewritten`). -/

namespace TreeQuery

/-! ## Compilations written differently -/

namespace Diagnostics

/-- The reports of all kinds but one. -/
def without (ds : Diagnostics) (kind : Diagnostic.Kind) : Diagnostics := ds.filter (·.kind ≠ kind)

variable {ds ds' : Diagnostics} {kind : Diagnostic.Kind}

@[simp] theorem without_nil : without [] kind = [] := rfl

@[simp] theorem without_append : (ds ++ ds').without kind = ds.without kind ++ ds'.without kind :=
  List.filter_append ..

theorem without_eq_nil (h : ∀ d ∈ ds, d.kind = kind) : ds.without kind = [] :=
  List.filter_eq_nil_iff.2 fun d hd => by simp [h d hd]

theorem without_eq_self (h : ∀ d ∈ ds, d.kind ≠ kind) : ds.without kind = ds :=
  List.filter_eq_self.2 fun d hd => by simp [h d hd]

end Diagnostics

/-- A compilation with its expression written differently, and the text with it. -/
def Compiled.rewrite (w : Rewriting) (c : Compiled) : Compiled :=
  { c with
    expr := c.expr.map (Expr.rewrite w)
    text := (c.expr.map fun e => (e.rewrite w).text).getD c.text }

/-- A compilation with no named groups behind the patterns, and none of the reports about them. -/
def Compiled.ungrouped (c : Compiled) : Compiled :=
  { c.rewrite { groups := fun _ => [] } with
    diagnostics := c.diagnostics.without .inactiveGroupLabel }

/-- A failure without the reports about named groups. -/
def CompileError.ungrouped : CompileError → CompileError
  | graph error => graph error
  | failed diagnostics => failed (diagnostics.without .inactiveGroupLabel)

/-- A compilation with the generated labels of another table. -/
def Compiled.relabelled (t : LabelTable) (c : Compiled) : Compiled :=
  { c.rewrite { label := t.exchange } with labels := t }

namespace LabelTable

variable {g : Graph} {id : NodeId} {stem name : String}

/-- Another stem gives the same labels, up to an exchange. -/
theorem name?_exchange_stem (h : (assign g stem).name? id = some name) (stem' : String) :
    (assign g stem').name? id = some ((assign g stem').exchange id name) := by
  obtain ⟨l, hl, -⟩ := Option.map_eq_some_iff.1 h
  have hid := OrderedMap.mem_keys_iff.2 ⟨l, hl⟩
  rw [keys_assign] at hid
  obtain ⟨node, hn⟩ := OrderedMap.mem_keys_iff.1 hid
  exact name?_exchange hn hn h

/-- In exchange for a user's label there is the same label. -/
theorem exchange_of_hasLabel {node : Node} (hn : g.nodes.get? id = some node)
    (hown : node.hasLabel = true) (stem name : String) :
    (assign g stem).exchange id name = name := by
  rw [exchange, isGenerated_assign stem hn, hown]
  rfl

end LabelTable

namespace Graph

variable {g : Graph} {config config' : Config} {reached : List NodeId}

/-! ## Reports -/

theorem kind_of_mem_duplicateReports {d : Diagnostic} (h : d ∈ g.duplicateReports) :
    d.kind = .duplicateLabel := by
  obtain ⟨⟨id, node⟩, -, hd⟩ := List.mem_flatMap.1 h
  dsimp only at hd
  split at hd
  · obtain ⟨v, -, rfl⟩ := List.mem_map.1 hd
    rfl
  · exact absurd hd List.not_mem_nil

theorem kind_of_mem_inactiveReports [Pattern.Dialect] {d : Diagnostic} (h : d ∈ g.inactiveReports) :
    d.kind = .inactiveGroupLabel := by
  obtain ⟨e, -, hd⟩ := List.mem_flatMap.1 h
  obtain ⟨group, -, rfl⟩ := List.mem_map.1 hd
  rfl

theorem kind_of_mem_unreachedReports {severity : Severity} {d : Diagnostic}
    (h : d ∈ g.unreachedReports severity reached) : d.kind = .unreachableNode := by
  obtain ⟨id, node, -, -, rfl⟩ := mem_unreachedReports.1 h
  rfl

/-- What is reported whatever the policy about unreached nodes is. -/
theorem reports_without_unreachable [Pattern.Dialect] (config : Config) (reached : List NodeId) :
    (g.reports config reached).without .unreachableNode =
      g.duplicateReports ++ if config.groupLabels then g.inactiveReports else [] := by
  have hduplicate : g.duplicateReports.without .unreachableNode = g.duplicateReports :=
    Diagnostics.without_eq_self fun d hd => by simp [kind_of_mem_duplicateReports hd]
  have hinactive : g.inactiveReports.without .unreachableNode = g.inactiveReports :=
    Diagnostics.without_eq_self fun d hd => by simp [kind_of_mem_inactiveReports hd]
  have hunreached (severity : Severity) :
      (g.unreachedReports severity reached).without .unreachableNode = [] :=
    Diagnostics.without_eq_nil fun d hd => kind_of_mem_unreachedReports hd
  rw [reports, Diagnostics.without_append, Diagnostics.without_append, hduplicate]
  cases config.groupLabels <;> cases config.unreachable <;>
    simp [hinactive, hunreached]

/-- The switch for named groups adds the reports about them and no others. -/
theorem reports_without_inactive [Pattern.Dialect] (config : Config) (reached : List NodeId) :
    (g.reports { config with groupLabels := true } reached).without .inactiveGroupLabel =
      g.reports { config with groupLabels := false } reached := by
  have hduplicate : g.duplicateReports.without .inactiveGroupLabel = g.duplicateReports :=
    Diagnostics.without_eq_self fun d hd => by simp [kind_of_mem_duplicateReports hd]
  have hinactive : g.inactiveReports.without .inactiveGroupLabel = [] :=
    Diagnostics.without_eq_nil fun d hd => kind_of_mem_inactiveReports hd
  have hunreached (severity : Severity) :
      (g.unreachedReports severity reached).without .inactiveGroupLabel =
        g.unreachedReports severity reached :=
    Diagnostics.without_eq_self fun d hd => by simp [kind_of_mem_unreachedReports hd]
  rw [reports, reports, Diagnostics.without_append, Diagnostics.without_append, hduplicate]
  cases config.unreachable <;> simp [hinactive, hunreached]

theorem hasErrors_reports_congr [Pattern.Dialect] (h : config'.unreachable = config.unreachable) :
    (g.reports config' reached).hasErrors = (g.reports config reached).hasErrors := by
  rw [Bool.eq_iff_iff, hasErrors_reports, hasErrors_reports, h]

/-! ## The same way through the graph -/

/-- A graph is a mirror of itself when its groups and labels are written differently. -/
theorem mirrors_self [Pattern.Dialect] {labels labels' : LabelTable}
    {groupLabels groupLabels' : Bool} (groups : List (Nat × String) → List (Nat × String))
    {label : NodeId → String → String} (start : NodeId)
    (hgroups : ∀ node, Query.shownGroups groupLabels' node =
      groups (Query.shownGroups groupLabels node))
    (hlabels : ∀ v name, labels.name? v = some name → labels'.name? v = some (label v name)) :
    Query.Mirrors { groups, label } g labels groupLabels g labels' groupLabels' start where
  node_injective := Function.injective_id
  relation_injective := Function.injective_id
  nodes := fun _ hn => ⟨_, hn, rfl, by simp, hgroups _⟩
  relations := fun _ hr _ => hr
  labels := fun _ hname => hlabels _ _ hname

/-- Two compilations under the same policy, one of which writes groups and labels differently: they
come to the same, and what one writes is what the other has written, rewritten. -/
theorem compileFrom_rewritten [Pattern.Dialect] (hg : g.WellFormed)
    {start : NodeId} (hstart : start ∈ g.nodes.keys)
    {groups : List (Nat × String) → List (Nat × String)} {label : NodeId → String → String}
    (hpolicy : config'.unreachable = config.unreachable)
    (hmirrors : Query.Mirrors { groups, label } g (.assign g config.labelStem) config.groupLabels g
      (.assign g config'.labelStem) config'.groupLabels start) :
    ∃ reached,
      (g.compileFrom start config = .error (.failed (g.reports config reached)) ∧
        g.compileFrom start config' = .error (.failed (g.reports config' reached))) ∨
      ∃ e, g.compileFrom start config = .ok ⟨some e, e.text, .assign g config.labelStem,
          g.reports config reached, config.palette⟩ ∧
        g.compileFrom start config' = .ok ⟨some (e.rewrite { groups, label }),
          (e.rewrite { groups, label }).text, .assign g config'.labelStem,
          g.reports config' reached, config'.palette⟩ := by
  obtain ⟨reached, hreached, e, hc⟩ := exists_compileFrom hg hstart config
  obtain ⟨reached', hreached', e', hc'⟩ := exists_compileFrom hg hstart config'
  obtain rfl := Except.ok.inj (hreached.symm.trans hreached')
  -- Both reach the same nodes, so both find errors or neither does.
  rw [hasErrors_reports_congr hpolicy] at hc'
  refine ⟨reached, ?_⟩
  split at hc
  · next herrors =>
    rw [if_pos herrors] at hc'
    exact .inl ⟨hc, hc'⟩
  · next herrors =>
    rw [if_neg herrors] at hc'
    obtain ⟨d, hd, hd'⟩ := hmirrors.expr_eq hc hc'
    obtain rfl := Option.some.inj hd
    obtain rfl := Option.some.inj hd'
    exact .inr ⟨e, hc, hc'⟩

variable {start : NodeId}

/-- The policy decides on the reports about unreached nodes, and whether they are errors. -/
theorem compileFrom_policy [Pattern.Dialect] {policy : UnreachablePolicy} {c c' : Compiled}
    (hc : g.compileFrom start config = .ok c)
    (hc' : g.compileFrom start { config with unreachable := policy } = .ok c') :
    c'.expr = c.expr ∧ c'.text = c.text ∧ c'.labels = c.labels ∧
      c'.diagnostics.without .unreachableNode = c.diagnostics.without .unreachableNode := by
  obtain ⟨e, seen, htraverse, rfl⟩ := Query.eq_of_compileFrom hc
  obtain ⟨e', seen', htraverse', rfl⟩ := Query.eq_of_compileFrom hc'
  -- The search does not know the policy, so the two searches are one.
  obtain ⟨rfl, rfl⟩ := Prod.mk.inj (Except.ok.inj (htraverse.symm.trans htraverse'))
  refine ⟨rfl, rfl, rfl, ?_⟩
  dsimp only
  rw [diagnose_assign g _ _ fun _ => .rfl, diagnose_assign g _ _ fun _ => .rfl,
    reports_without_unreachable, reports_without_unreachable]

/-- Without named groups a compilation comes to the same as with them, but for the groups. -/
theorem compileFrom_ungrouped [Pattern.Dialect] (hg : g.WellFormed) (start : NodeId)
    (config : Config) :
    g.compileFrom start { config with groupLabels := false } =
      carry CompileError.ungrouped Compiled.ungrouped
        (g.compileFrom start { config with groupLabels := true }) := by
  by_cases hstart : start ∈ g.nodes.keys
  · obtain ⟨reached, ⟨hc, hc'⟩ | ⟨e, hc, hc'⟩⟩ := compileFrom_rewritten hg hstart
      (show ({ config with groupLabels := false } : Config).unreachable =
        ({ config with groupLabels := true } : Config).unreachable from rfl)
      (mirrors_self (fun _ => []) start (fun _ => rfl) fun _ _ hname => hname)
    · rw [hc, hc', ← reports_without_inactive]
      rfl
    · rw [hc, hc', ← reports_without_inactive]
      rfl
  · rw [compileFrom_of_not_mem hstart, compileFrom_of_not_mem hstart]
    rfl

/-- With another stem a compilation comes to the same, but for generated labels. -/
theorem compileFrom_relabelled [Pattern.Dialect] (hg : g.WellFormed) (start : NodeId)
    (config : Config) (stem : String) :
    g.compileFrom start { config with labelStem := stem } =
      (g.compileFrom start config).map (Compiled.relabelled (.assign g stem)) := by
  by_cases hstart : start ∈ g.nodes.keys
  · obtain ⟨reached, ⟨hc, hc'⟩ | ⟨e, hc, hc'⟩⟩ := compileFrom_rewritten hg hstart
      (show ({ config with labelStem := stem } : Config).unreachable = config.unreachable from rfl)
      (mirrors_self id start (fun _ => rfl)
        fun _ _ hname => LabelTable.name?_exchange_stem hname stem)
    · rw [hc, hc']
      rfl
    · rw [hc, hc']
      rfl
  · rw [compileFrom_of_not_mem hstart, compileFrom_of_not_mem hstart]
    rfl

/-- **Options do not interfere.** If two compilations differ in the policy about unreached nodes and
both give a query, the queries differ in reports about such nodes only. Without named groups a
compilation comes to the same as with them: expression and text have no groups, the reports about
groups are missing, labels and all other reports stay, also where there is no query. With another
stem a compilation comes to the same as well, with the same reports; the labels in its expression
are exchanged, and those that users have given are exchanged for themselves. -/
theorem options_do_not_interfere [Pattern.Dialect] (hg : g.Buildable) (start : NodeId)
    (config : Config) :
    (∀ policy c c', g.compileFrom start config = .ok c →
      g.compileFrom start { config with unreachable := policy } = .ok c' →
        c'.expr = c.expr ∧ c'.text = c.text ∧ c'.labels = c.labels ∧
          c'.diagnostics.without .unreachableNode = c.diagnostics.without .unreachableNode) ∧
    g.compileFrom start { config with groupLabels := false } =
      carry CompileError.ungrouped Compiled.ungrouped
        (g.compileFrom start { config with groupLabels := true }) ∧
    ∀ stem,
      g.compileFrom start { config with labelStem := stem } =
        (g.compileFrom start config).map (Compiled.relabelled (.assign g stem)) ∧
      ∀ v node, g.nodes.get? v = some node → node.hasLabel = true →
        ∀ name, (LabelTable.assign g stem).exchange v name = name :=
  ⟨fun _ _ _ => compileFrom_policy, compileFrom_ungrouped hg.wellFormed start config, fun stem =>
    ⟨compileFrom_relabelled hg.wellFormed start config stem, fun _ _ hn hown name =>
      LabelTable.exchange_of_hasLabel hn hown stem name⟩⟩

/-- A node with a named group that its pattern has and one that it has not, related to a node that
has the first label with the stem `q`, as has a third node that is not reached. -/
def toggled : Graph :=
  .replay .empty [.createNode "a(b)", .createNode "c", .createNode "d",
    .createRelation ⟨0⟩ ⟨1⟩ {}, .editNode ⟨0⟩ (.setGroupLabel 0 "x"),
    .editNode ⟨0⟩ (.setGroupLabel 1 "y"), .editNode ⟨1⟩ (.setLabel "q0"),
    .editNode ⟨2⟩ (.setLabel "q0")]

theorem buildable_toggled : toggled.Buildable := ⟨_, rfl⟩

theorem options_do_not_interfere_toggled :
    ∃ c quiet, toggled.compileFrom ⟨0⟩ {} = .ok c ∧
      toggled.compileFrom ⟨0⟩ { unreachable := .ignore } = .ok quiet ∧
      quiet.expr = c.expr ∧
      quiet.diagnostics.without .unreachableNode = c.diagnostics.without .unreachableNode ∧
      (c.diagnostics.map fun d => (d.kind, d.node)) = [(.duplicateLabel, ⟨2⟩),
        (.inactiveGroupLabel, ⟨0⟩), (.unreachableNode, ⟨2⟩)] ∧
      toggled.compileFrom ⟨0⟩ { groupLabels := false } = .ok c.ungrouped ∧
      toggled.compileFrom ⟨0⟩ { labelStem := "q" } =
        .ok (c.relabelled (.assign toggled "q")) ∧
      c.text = "a(b)#1%x=___g0 >> (c=q0)" ∧ c.ungrouped.text = "a(b)=___g0 >> (c=q0)" ∧
      (c.relabelled (.assign toggled "q")).text = "a(b)#1%x=q1 >> (c=q0)" ∧
      (LabelTable.assign toggled "q").exchange ⟨1⟩ "q0" = "q0" := by
  obtain ⟨hpolicy, hgroups, hstem⟩ := options_do_not_interfere buildable_toggled ⟨0⟩ {}
  obtain ⟨hrelabelled, hown⟩ := hstem "q"
  obtain ⟨c, hc, hkinds, htext, hplainText, hshortText⟩ : ∃ c,
      toggled.compileFrom ⟨0⟩ {} = .ok c ∧
      (c.diagnostics.map fun d => (d.kind, d.node)) = [(.duplicateLabel, ⟨2⟩),
        (.inactiveGroupLabel, ⟨0⟩), (.unreachableNode, ⟨2⟩)] ∧
      c.text = "a(b)#1%x=___g0 >> (c=q0)" ∧ c.ungrouped.text = "a(b)=___g0 >> (c=q0)" ∧
      (c.relabelled (.assign toggled "q")).text = "a(b)#1%x=q1 >> (c=q0)" :=
    ⟨_, rfl, by decide +kernel, rfl, rfl, rfl⟩
  obtain ⟨quiet, hquiet⟩ : ∃ c, toggled.compileFrom ⟨0⟩ { unreachable := .ignore } = .ok c :=
    ⟨_, rfl⟩
  obtain ⟨hexpr, -, -, hreports⟩ := hpolicy _ c quiet hc hquiet
  have hplain : toggled.compileFrom ⟨0⟩ { groupLabels := false } = .ok c.ungrouped := by
    rw [hgroups, hc]
    rfl
  have hshort : toggled.compileFrom ⟨0⟩ { labelStem := "q" } =
      .ok (c.relabelled (.assign toggled "q")) := by
    rw [hrelabelled, hc]
    rfl
  exact ⟨c, quiet, hc, hquiet, hexpr, hreports, hkinds, hplain, hshort, htext, hplainText,
    hshortText, hown ⟨1⟩ _ rfl rfl "q0"⟩

end Graph

end TreeQuery
