import Mathlib.Data.List.Basic
import Mathlib.Data.List.Perm.Basic
import TreeQuery.Proofs.Node
import TreeQuery.Proofs.Query.Matching
import TreeQuery.Proofs.Query.Options

set_option autoImplicit false

/-! # Named groups are written or reported

Whether a pattern has the group that a node names is looked at twice: the search writes the groups
that are there (`Visits.define_eq`), and a check reports those that are not, for all nodes of the
graph (`filter_inactiveReports`). The two split the groups between them, whatever the dialect says
about a pattern (`Node.splits`). -/

namespace TreeQuery

/-- A node of an expression is mentioned for the first time somewhere. -/
theorem Expr.exists_at?_of_mem_nodes {e : Expr} {v : NodeId} (h : v ∈ e.nodes) :
    ∃ place pattern groups label clauses,
      e.at? place = some (.define v pattern groups label clauses) := by
  rw [← map_node_firsts] at h
  obtain ⟨d, hd, rfl⟩ := List.mem_map.1 h
  obtain ⟨hdefines, place, hplace⟩ := exists_at?_of_mem_firsts e hd
  obtain ⟨pattern, groups, label, clauses, hdefine⟩ := defines?_eq_some_iff.1 hdefines
  exact ⟨place, pattern, groups, label, clauses, hdefine ▸ hplace⟩

/-! ## Groups that are there and groups that are missing -/

namespace Node

variable [Pattern.Dialect] {node : Node}

/-- What becomes of the named groups of a node: some are written behind the pattern, and the others
are reported. -/
structure Splits (node : Node) (written reported : List (Nat × String)) : Prop where
  perm : (written ++ reported).Perm node.namedGroups
  nodup : (written ++ reported).Nodup
  ascend : written.Pairwise fun a b => a.1 < b.1
  /-- In the query groups count from one. -/
  numbered : ∀ group ∈ written,
    1 ≤ group.1 + 1 ∧ group.1 + 1 ≤ 4 ∧ ∃ n, node.captureCount = some n ∧ group.1 + 1 ≤ n
  invalid : node.captureCount = none → written = []

theorem mem_activeGroups {group : Nat × String} : group ∈ node.activeGroups ↔
    group ∈ node.namedGroups ∧ ∃ n, node.captureCount = some n ∧ group.1 < n := by
  rw [activeGroups, List.mem_filter]
  cases node.captureCount <;> simp

theorem activeGroups_append_missingGroups_perm (node : Node) :
    (node.activeGroups ++ node.missingGroups).Perm node.namedGroups := by
  have hmissing : node.missingGroups =
      node.namedGroups.filter fun group => !decide (group.1 < node.captureCount.getD 0) := by
    simp only [missingGroups, ← decide_not, Nat.not_lt]
  rw [hmissing]
  exact List.filter_append_perm _ _

theorem splits (node : Node) : node.Splits node.activeGroups node.missingGroups where
  perm := node.activeGroups_append_missingGroups_perm
  nodup := by
    refine node.activeGroups_append_missingGroups_perm.nodup_iff.2 ?_
    refine node.namedGroups_ascend.imp fun h heq => ?_
    exact absurd h (by simp [heq])
  ascend := node.namedGroups_ascend.sublist List.filter_sublist
  numbered := by
    intro group h
    obtain ⟨hnamed, n, hn, hlt⟩ := mem_activeGroups.1 h
    exact ⟨Nat.succ_pos _, lt_of_mem_namedGroups hnamed, n, hn, hlt⟩
  invalid := by
    intro hnone
    refine List.eq_nil_iff_forall_not_mem.2 fun group h => ?_
    obtain ⟨-, n, hn, -⟩ := mem_activeGroups.1 h
    exact absurd (hnone.symm.trans hn) (by simp)

end Node

/-! ## The reports about one node -/

namespace Diagnostics

variable {ds ds' : Diagnostics} {kind : Diagnostic.Kind}

@[simp] theorem ofKind_nil (kind : Diagnostic.Kind) : Diagnostics.ofKind [] kind = [] := rfl

theorem ofKind_append : (ds ++ ds').ofKind kind = ds.ofKind kind ++ ds'.ofKind kind :=
  List.filter_append ..

theorem ofKind_eq_nil (h : ∀ d ∈ ds, d.kind ≠ kind) : ds.ofKind kind = [] :=
  List.filter_eq_nil_iff.2 fun d hd => by simp [h d hd]

theorem ofKind_eq_self (h : ∀ d ∈ ds, d.kind = kind) : ds.ofKind kind = ds :=
  List.filter_eq_self.2 fun d hd => by simp [h d hd]

end Diagnostics

/-- If a key occurs once and nothing is listed for the others, only its things are listed. -/
theorem flatMap_eq_of_nodup {κ γ : Type} {keys : List κ} (h : keys.Nodup) {key : κ}
    (hkey : key ∈ keys) {f : κ → List γ} (hother : ∀ k, k ≠ key → f k = []) :
    keys.flatMap f = f key := by
  obtain ⟨before, after, rfl⟩ := List.append_of_mem hkey
  obtain ⟨hnot, -⟩ := List.nodup_cons.1 (List.nodup_middle.1 h)
  have hnil {ks : List κ} (hks : ks ⊆ before ++ after) : ks.flatMap f = [] :=
    List.flatMap_eq_nil_iff.2 fun k hk => hother k fun heq => hnot (heq ▸ hks hk)
  rw [List.flatMap_append, List.flatMap_cons, hnil (List.subset_append_left ..),
    hnil (List.subset_append_right ..), List.nil_append, List.append_nil]

namespace Graph

variable [Pattern.Dialect] {g : Graph} {config : Config}

theorem node_of_mem_checkNodeGroups {id : NodeId} {node : Node} {d : Diagnostic}
    (h : d ∈ Query.checkNodeGroups id node) : d.node = id := by
  obtain ⟨group, -, rfl⟩ := List.mem_map.1 h
  rfl

/-- What is reported about the named groups of one node are those that are missing there. -/
theorem filter_inactiveReports {v : NodeId} {node : Node} (hn : g.nodes.get? v = some node) :
    g.inactiveReports.filter (·.node = v) =
      node.missingGroups.map (inactiveReport v node.captureCount) := by
  have hreports : Query.checkGroupLabels g = g.nodes.keys.flatMap fun id =>
      (g.nodes.get? id).toList.flatMap (Query.checkNodeGroups id) :=
    g.nodes.flatMap_entries Query.checkNodeGroups
  have hkeys : g.nodes.keys.Nodup := g.nodes.nodup_keys
  rw [← Query.checkGroupLabels_eq, hreports, List.filter_flatMap,
    flatMap_eq_of_nodup hkeys (OrderedMap.mem_keys_iff.2 ⟨node, hn⟩)]
  · rw [hn, Option.toList_some, List.flatMap_singleton]
    exact List.filter_eq_self.2 fun d hd => decide_eq_true (node_of_mem_checkNodeGroups hd)
  · refine fun id hid => List.filter_eq_nil_iff.2 fun d hd => ?_
    obtain ⟨node', -, hd⟩ := List.mem_flatMap.1 hd
    rw [node_of_mem_checkNodeGroups hd]
    simpa using hid

theorem ofKind_reports (hon : config.groupLabels = true) (reached : List NodeId) :
    (g.reports config reached).ofKind .inactiveGroupLabel = g.inactiveReports := by
  have hduplicate : g.duplicateReports.ofKind .inactiveGroupLabel = [] :=
    Diagnostics.ofKind_eq_nil fun d hd => by simp [kind_of_mem_duplicateReports hd]
  have hinactive : g.inactiveReports.ofKind .inactiveGroupLabel = g.inactiveReports :=
    Diagnostics.ofKind_eq_self fun d hd => kind_of_mem_inactiveReports hd
  have hunreached (severity : Severity) :
      (g.unreachedReports severity reached).ofKind .inactiveGroupLabel = [] :=
    Diagnostics.ofKind_eq_nil fun d hd => by simp [kind_of_mem_unreachedReports hd]
  rw [reports, if_pos hon, Diagnostics.ofKind_append, Diagnostics.ofKind_append, hduplicate,
    hinactive]
  cases config.unreachable <;> simp [hunreached]

end Graph

/-! ## Written or reported -/

namespace Query

/-- **Every named group of a node that is reached is either written or reported.** This holds in
every dialect of patterns. -/
theorem groups_written_or_reported [Pattern.Dialect] {g : Graph} {config : Config}
    {start : NodeId} {c : Compiled} (hg : g.Buildable) (hon : config.groupLabels = true)
    (hc : g.compileFrom start config = .ok c) :
    ∃ e reached, c.expr = some e ∧ g.reachable start = .ok reached ∧
      ∀ v ∈ reached, ∃ node place written label clauses reported,
        g.nodes.get? v = some node ∧
        e.at? place = some (.define v node.pattern written label clauses) ∧
        (∀ other d, e.at? other = some d → d.defines? = some v → other = place) ∧
        (c.diagnostics.ofKind .inactiveGroupLabel).filter (·.node = v) =
          reported.map (Graph.inactiveReport v node.captureCount) ∧
        node.Splits written reported := by
  obtain ⟨e, seen, htraverse, rfl⟩ := eq_of_compileFrom hc
  have hvisits := visits_of_visit htraverse
  have hwell := hg.wellFormed
  refine ⟨e, e.nodes, rfl, hvisits.reachable_eq hwell, fun v hv => ?_⟩
  obtain ⟨place, pattern, groups, label, clauses, hplace⟩ := Expr.exists_at?_of_mem_nodes hv
  obtain ⟨node, hn, rfl, rfl⟩ := hvisits.define_eq hwell hplace
  have hshown : shownGroups config.groupLabels node = node.activeGroups := if_pos hon
  rw [hshown] at hplace
  refine ⟨node, place, _, label, clauses, node.missingGroups, hn, hplace,
    fun other d hd hdefines => ?_, ?_, node.splits⟩
  · exact Expr.place_eq_of_nodup hvisits.nodup_expr.1 hd hdefines hplace rfl
  · rw [g.diagnose_assign config config.labelStem fun _ => Iff.rfl, Graph.ofKind_reports hon,
      Graph.filter_inactiveReports hn]

/-- A node with two named groups, only the first of which its pattern has, and a node with a named
group whose pattern is not valid. -/
def captioned : Graph :=
  .replay .empty [.createNode "a(b)(c)", .createNode "d(", .createRelation ⟨0⟩ ⟨1⟩ {},
    .editNode ⟨0⟩ (.setGroupLabel 0 "x"), .editNode ⟨0⟩ (.setGroupLabel 3 "y"),
    .editNode ⟨1⟩ (.setGroupLabel 0 "z")]

theorem buildable_captioned : captioned.Buildable := ⟨_, rfl⟩

theorem groups_written_or_reported_captioned :
    ∃ c e, captioned.compileFrom ⟨0⟩ {} = .ok c ∧ c.expr = some e ∧
      c.text = "a(b)(c)#1%x=___g0 >> (d(=___g1)" ∧ c.diagnostics.map (·.node) = [⟨0⟩, ⟨1⟩] ∧
      ∀ v ∈ [(⟨0⟩ : NodeId), ⟨1⟩], ∃ node place written label clauses reported,
        captioned.nodes.get? v = some node ∧
        e.at? place = some (.define v node.pattern written label clauses) ∧
        (∀ other d, e.at? other = some d → d.defines? = some v → other = place) ∧
        (c.diagnostics.ofKind .inactiveGroupLabel).filter (·.node = v) =
          reported.map (Graph.inactiveReport v node.captureCount) ∧
        node.Splits written reported := by
  have hon : ({} : Config).groupLabels = true := rfl
  obtain ⟨c, hc, htext, hnodes⟩ : ∃ c, captioned.compileFrom ⟨0⟩ {} = .ok c ∧
      c.text = "a(b)(c)#1%x=___g0 >> (d(=___g1)" ∧ c.diagnostics.map (·.node) = [⟨0⟩, ⟨1⟩] :=
    ⟨_, rfl, rfl, by decide +kernel⟩
  obtain ⟨e, reached, he, hreached, hall⟩ := groups_written_or_reported buildable_captioned hon hc
  have hboth : captioned.reachable ⟨0⟩ = .ok [⟨0⟩, ⟨1⟩] :=
    reachable_of_compileFrom_map buildable_captioned {} rfl
  obtain rfl := Except.ok.inj (hboth.symm.trans hreached)
  exact ⟨c, e, hc, he, htext, hnodes, hall⟩

end Query

end TreeQuery
