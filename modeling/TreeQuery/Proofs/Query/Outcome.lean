import TreeQuery.Proofs.Query.Discovery
import TreeQuery.Proofs.Query.Progress
import TreeQuery.Proofs.Query.Report

set_option autoImplicit false

/-! # What a compilation comes to

A compilation from a node that is not there is refused. From a live node the search ends
(`Query.exists_traverse`) and meets exactly the nodes that can be reached, so what is reported is
`Graph.reports` of them. Whether there is a query depends on these reports alone: there is none only
if nodes outside are errors and there are some (`compileFrom_outcome`). -/

namespace TreeQuery

namespace Graph

section

variable [Pattern.Dialect] {g : Graph} {config : Config} {start : NodeId}

theorem compileFrom_of_not_mem (h : start ∉ g.nodes.keys) (config : Config) :
    g.compileFrom start config = .error (.graph (.unknownNode start)) := by
  rw [compileFrom, if_neg fun hcontains => h (OrderedMap.contains_iff_mem_keys.1 hcontains)]

/-- From a live node on there are reports about what can be reached, and there is a query unless
there is an error among them. -/
theorem exists_compileFrom (hg : g.WellFormed) (hstart : start ∈ g.nodes.keys) (config : Config) :
    ∃ reached, g.reachable start = .ok reached ∧ ∃ e : Expr, g.compileFrom start config =
      if (g.reports config reached).hasErrors then .error (.failed (g.reports config reached))
      else .ok ⟨some e, e.text, .assign g config.labelStem, g.reports config reached,
        config.palette⟩ := by
  obtain ⟨e, seen, htraverse⟩ := Query.exists_traverse config.groupLabels hg
    (fun _ hid => LabelTable.exists_name?_assign config.labelStem hid) hstart
  have hvisits := Query.visits_of_visit htraverse
  have hreports : g.diagnose config (.assign g config.labelStem) seen.nodes =
      g.reports config e.nodes :=
    g.diagnose_assign config _ fun id => by simp [hvisits.nodes_eq]
  refine ⟨e.nodes, hvisits.reachable_eq hg, e, ?_⟩
  rw [compileFrom, if_pos (OrderedMap.contains_iff_mem_keys.2 hstart), ← hreports]
  simp only [htraverse]

/-- From a live node on there is a query, unless nodes that are not reached are errors and there are
some. -/
theorem compileFrom_of_mem (hg : g.WellFormed) (hstart : start ∈ g.nodes.keys) (config : Config) :
    ∃ reached, g.reachable start = .ok reached ∧
      if config.unreachable = .error ∧ ∃ id ∈ g.nodes.keys, id ∉ reached then
        g.compileFrom start config = .error (.failed (g.reports config reached))
      else ∃ c, g.compileFrom start config = .ok c ∧
        c.diagnostics = g.reports config reached ∧ ∀ d ∈ c.diagnostics, d.severity ≠ .error := by
  obtain ⟨reached, hreached, e, hcompile⟩ := exists_compileFrom hg hstart config
  refine ⟨reached, hreached, ?_⟩
  split
  · next hmissed => rw [hcompile, if_pos ((hasErrors_reports config reached).2 hmissed)]
  · next hmissed =>
    have hnone := mt (hasErrors_reports config reached).1 hmissed
    rw [if_neg hnone] at hcompile
    refine ⟨_, hcompile, rfl, fun d hd herror => hnone ?_⟩
    exact List.any_eq_true.2 ⟨d, hd, by simpa using herror⟩

/-- Unless nodes that are not reached are errors, there is a query from every live node on. -/
theorem exists_ok_compileFrom (hg : g.WellFormed) (hstart : start ∈ g.nodes.keys)
    (hpolicy : config.unreachable ≠ .error) : ∃ c, g.compileFrom start config = .ok c := by
  obtain ⟨reached, -, houtcome⟩ := compileFrom_of_mem hg hstart config
  rw [if_neg fun hmissed => hpolicy hmissed.1] at houtcome
  obtain ⟨c, hc, -⟩ := houtcome
  exact ⟨c, hc⟩

theorem compileFrom_eq_unknownNode_iff (hg : g.WellFormed) (config : Config) :
    g.compileFrom start config = .error (.graph (.unknownNode start)) ↔ start ∉ g.nodes.keys := by
  refine ⟨fun hunknown hstart => ?_, fun h => compileFrom_of_not_mem h config⟩
  obtain ⟨reached, -, houtcome⟩ := compileFrom_of_mem hg hstart config
  split at houtcome
  · exact absurd (hunknown.symm.trans houtcome) (by simp)
  · obtain ⟨c, hc, -⟩ := houtcome
    exact absurd (hunknown.symm.trans hc) (by simp)

/-- **What a compilation comes to.** It refuses a start node that is not there. Otherwise it reports
`g.reports config reached`; it fails with these reports if nodes that are not reached are errors
and there are some, and gives a query, without an error among the reports, if not. The query
of a graph is that of its head, and that of the empty graph is empty. -/
theorem compileFrom_outcome (hg : g.Buildable) (config : Config) :
    (∀ start, g.compileFrom start config = .error (.graph (.unknownNode start)) ↔
      start ∉ g.nodes.keys) ∧
    (∀ start ∈ g.nodes.keys, ∃ reached, g.reachable start = .ok reached ∧
      if config.unreachable = .error ∧ ∃ id ∈ g.nodes.keys, id ∉ reached then
        g.compileFrom start config = .error (.failed (g.reports config reached))
      else ∃ c, g.compileFrom start config = .ok c ∧
        c.diagnostics = g.reports config reached ∧ ∀ d ∈ c.diagnostics, d.severity ≠ .error) ∧
    if g.nodes.keys = [] then
      ∃ c, g.compile config = .ok c ∧ c.expr = none ∧ c.text = "" ∧ c.diagnostics = []
    else ∃ head ∈ g.nodes.keys, g.head = some head ∧
      g.compile config = g.compileFrom head config := by
  have hwell := hg.wellFormed
  refine ⟨fun start => compileFrom_eq_unknownNode_iff hwell config,
    fun start hstart => compileFrom_of_mem hwell hstart config, ?_⟩
  cases hhead : g.head with
  | none =>
      rw [if_pos (hwell.head_eq_none_iff.1 hhead), compile, hhead]
      exact ⟨_, rfl, rfl, rfl, rfl⟩
  | some head =>
      have hmem := hwell.head_live hhead
      rw [if_neg (List.ne_nil_of_mem hmem), compile, hhead]
      exact ⟨head, hmem, rfl, rfl⟩

end

/-- Four nodes, two of which have the same label and no relations; the pattern of another is no
pattern, and that of the last has one capture group, but the second is named. -/
def scattered : Graph :=
  .replay .empty [.createNode "a", .createNode "b(", .createNode "c", .createNode "d(e)",
    .editNode ⟨0⟩ (.setLabel "x"), .editNode ⟨2⟩ (.setLabel "x"),
    .editNode ⟨1⟩ (.setGroupLabel 0 "g"), .editNode ⟨3⟩ (.setGroupLabel 1 "h"),
    .createRelation ⟨3⟩ ⟨1⟩ {}]

theorem buildable_scattered : scattered.Buildable := ⟨_, rfl⟩

theorem compileFrom_scattered :
    (∃ c, scattered.compileFrom ⟨1⟩ {} = .ok c ∧
      (c.diagnostics.map fun d => (d.kind, d.severity, d.node)) =
        [(.duplicateLabel, .warning, ⟨2⟩), (.inactiveGroupLabel, .warning, ⟨1⟩),
          (.inactiveGroupLabel, .warning, ⟨3⟩), (.unreachableNode, .warning, ⟨0⟩),
          (.unreachableNode, .warning, ⟨2⟩)]) ∧
    scattered.compileFrom ⟨1⟩ { unreachable := .error } =
      .error (.failed (scattered.reports { unreachable := .error } [⟨1⟩, ⟨3⟩])) ∧
    scattered.compileFrom ⟨4⟩ {} = .error (.graph (.unknownNode ⟨4⟩)) := by
  have hreachable : scattered.reachable ⟨1⟩ = .ok [⟨1⟩, ⟨3⟩] :=
    Query.reachable_of_compileFrom_map buildable_scattered {} rfl
  have hlive : (⟨1⟩ : NodeId) ∈ scattered.nodes.keys := by decide
  have hmissed : ∃ id ∈ scattered.nodes.keys, id ∉ [(⟨1⟩ : NodeId), ⟨3⟩] := by decide
  refine ⟨?_, ?_, ?_⟩
  · obtain ⟨reached, hreached, houtcome⟩ :=
      (compileFrom_outcome buildable_scattered {}).2.1 ⟨1⟩ hlive
    obtain rfl := Except.ok.inj (hreachable.symm.trans hreached)
    rw [if_neg fun h => absurd h.1 (by decide)] at houtcome
    obtain ⟨c, hc, hreports, -⟩ := houtcome
    refine ⟨c, hc, ?_⟩
    rw [hreports]
    decide +kernel
  · obtain ⟨reached, hreached, houtcome⟩ :=
      (compileFrom_outcome buildable_scattered { unreachable := .error }).2.1 ⟨1⟩ hlive
    obtain rfl := Except.ok.inj (hreachable.symm.trans hreached)
    rwa [if_pos ⟨rfl, hmissed⟩] at houtcome
  · exact ((compileFrom_outcome buildable_scattered {}).1 ⟨4⟩).2 (by decide)

end Graph

end TreeQuery
