import TreeQuery.Proofs.Graph.Rebuilding
import TreeQuery.Query.Compile

set_option autoImplicit false

/-! # Handles do not matter

A compilation asks of handles only whether two of them are the same, and takes them in the order of
the graph. So every part of it can be renamed: labels and reports are the same for the renamed nodes
(`LabelTable.assign_rename`, `Query.diagnose_rename`), and the search marks, skips and reads what it
has marked, skipped and read before under other names (`Query.visit_rename`). Together with what is
known about building with other handles it follows that the handles do not show in a query, and that
a graph that has been emptied is as good as a new one (`Query.handles_do_not_matter`). -/

namespace TreeQuery

variable {σ : Renaming} {g g' : Graph}

/-! ## Renaming what a compilation gives -/

/-- Renaming is a way of writing expressions differently. -/
def Renaming.rewriting (σ : Renaming) : Rewriting where
  node := σ.node
  relation := σ.relation

/-- A report about the renamed nodes. -/
def Diagnostic.rename (σ : Renaming) (d : Diagnostic) : Diagnostic :=
  { d with
    node := σ.node d.node
    notes := d.notes.map fun n => { n with node := σ.node n.node } }

/-- Why there is no query for the renamed graph. -/
def CompileError.rename (σ : Renaming) : CompileError → CompileError
  | graph error => graph (error.rename σ)
  | failed diagnostics => failed (diagnostics.map (Diagnostic.rename σ))

/-- A compiled query with renamed handles; the text and the colours are the same. -/
def Compiled.rename (σ : Renaming) (c : Compiled) : Compiled :=
  { c with
    expr := c.expr.map (Expr.rewrite σ.rewriting)
    labels := c.labels.rename σ.node id
    diagnostics := c.diagnostics.map (Diagnostic.rename σ) }

mutual

/-- Handles are not written. -/
theorem Expr.text_rewrite (σ : Renaming) (e : Expr) : (e.rewrite σ.rewriting).text = e.text := by
  cases e with
  | backRef v label => rfl
  | define v pattern groups label clauses =>
      rw [rewrite, text, text, clausesText_rewriteOf σ clauses]
      rfl

theorem Expr.clausesText_rewriteOf (σ : Renaming) (cs : List (Clause Expr)) :
    clausesText (rewriteOf σ.rewriting cs) = clausesText cs := by
  match cs with
  | [] => rfl
  | ⟨r, operator, target⟩ :: rest =>
      rw [rewriteOf, clausesText, clausesText, text_rewrite σ target, clausesText_rewriteOf σ rest]

end

/-! ## Labels -/

namespace LabelTable

theorem userLabels_rename (h : g.Renames σ g') : userLabels g' = userLabels g := by
  simp only [userLabels, h.nodes, OrderedMap.entries_rename, List.filter_map, List.map_map]
  rfl

theorem label_rename (taken : List String) (stem : String) (start : Nat)
    (nodes : List (NodeId × Node)) :
    label taken stem start (nodes.map (Prod.map σ.node (Node.rename σ))) =
      (label taken stem start nodes).map (Prod.map σ.node id) := by
  induction nodes generalizing start with
  | nil => rfl
  | cons n nodes ih =>
      obtain ⟨v, node⟩ := n
      simp only [List.map_cons, Prod.map, label]
      have hown : (node.rename σ).hasLabel = node.hasLabel := rfl
      rw [hown]
      split
      · rw [ih]; rfl
      · rw [ih]; rfl

theorem assign_rename (h : g.Renames σ g') (stem : String) :
    assign g' stem = (assign g stem).rename σ.node id := by
  ext1
  show label (userLabels g') stem 0 g'.nodes.entries = _
  rw [userLabels_rename h, h.nodes, OrderedMap.entries_rename, label_rename]
  rfl

theorem require_rename (t : LabelTable) (v : NodeId) :
    require (t.rename σ.node id) (σ.node v) = carry (Graph.Fault.rename σ) id (t.require v) := by
  unfold require name?
  rw [OrderedMap.get?_rename, Option.map_id]
  cases t.get? v <;> rfl

theorem carriers_rename (t : LabelTable) (name : String) :
    carriers (t.rename σ.node id) name = (t.carriers name).map σ.node := by
  simp only [carriers, OrderedMap.entries_rename, List.filter_map, List.map_map]
  rfl

theorem duplicates_rename (t : LabelTable) :
    duplicates (t.rename σ.node id) = t.duplicates.map (Prod.map id (List.map σ.node)) := by
  simp [duplicates, List.filter_map, Function.comp_def, carriers_rename]

end LabelTable

/-! ## Reports -/

namespace Query

theorem checkLabels_rename (t : LabelTable) :
    checkLabels (t.rename σ.node id) = (checkLabels t).map (Diagnostic.rename σ) := by
  rw [checkLabels, checkLabels, LabelTable.duplicates_rename, List.flatMap_map, List.map_flatMap]
  refine congrArg List.flatten (List.map_congr_left fun d hd => ?_)
  obtain ⟨name, nodes⟩ := d
  cases nodes with
  | nil => rfl
  | cons first rest =>
      simp only [Prod.map, List.map_cons, List.map_map]
      rfl

theorem checkNodeGroups_rename [Pattern.Dialect] (v : NodeId) (node : Node) :
    checkNodeGroups (σ.node v) (node.rename σ) =
      (checkNodeGroups v node).map (Diagnostic.rename σ) := by
  rw [checkNodeGroups, checkNodeGroups, List.map_map]
  rfl

theorem checkGroupLabels_rename [Pattern.Dialect] (h : g.Renames σ g') :
    checkGroupLabels g' = (checkGroupLabels g).map (Diagnostic.rename σ) := by
  rw [checkGroupLabels, checkGroupLabels, h.nodes, OrderedMap.entries_rename, List.flatMap_map,
    List.map_flatMap]
  refine congrArg List.flatten (List.map_congr_left fun n _ => ?_)
  exact checkNodeGroups_rename n.1 n.2

theorem checkReached_rename (h : g.Renames σ g') (policy : UnreachablePolicy)
    (reached : List NodeId) :
    checkReached g' policy (reached.map σ.node) =
      (checkReached g policy reached).map (Diagnostic.rename σ) := by
  have hreached : (fun e : NodeId × Node => decide (e.1 ∉ reached.map σ.node)) ∘
      Prod.map σ.node (Node.rename σ) = fun e => decide (e.1 ∉ reached) := by
    funext e
    simp only [Function.comp_apply, Prod.map_fst, List.mem_map_of_injective σ.node.injective]
  unfold checkReached
  split
  · rfl
  · rw [h.nodes, OrderedMap.entries_rename, List.filter_map, hreached, List.map_map, List.map_map]
    rfl

theorem diagnose_rename [Pattern.Dialect] (h : g.Renames σ g') (config : Config)
    (labels : LabelTable) (reached : List NodeId) :
    g'.diagnose config (labels.rename σ.node id) (reached.map σ.node) =
      (g.diagnose config labels reached).map (Diagnostic.rename σ) := by
  rw [Graph.diagnose, Graph.diagnose, List.map_append, List.map_append, checkLabels_rename,
    checkReached_rename h, checkGroupLabels_rename h]
  split <;> rfl

theorem hasErrors_rename (ds : Diagnostics) :
    Diagnostics.hasErrors (ds.map (Diagnostic.rename σ)) = ds.hasErrors := by
  rw [Diagnostics.hasErrors, List.any_map]
  rfl

/-! ## The search -/

theorem ends_rename (node : Node) :
    ends (node.rename σ) = (ends node).map fun x => (σ.relation x.1, x.2) := by
  simp [ends, Node.rename, Function.comp_def]

/-- What a visit gives with renamed handles. -/
def renameVisit (σ : Renaming) (x : Expr × Seen) : Expr × Seen :=
  (x.1.rewrite σ.rewriting, x.2.rewrite σ.rewriting)

/-- If targets are visited under other names in the same way, relations are read in the same way. -/
theorem clauses_rename (h : g.Renames σ g')
    {visitTarget visitTarget' : NodeId → Seen → Except Graph.Fault (Expr × Seen)}
    (hvisit : ∀ v seen, visitTarget' (σ.node v) (seen.rewrite σ.rewriting) =
      carry (Graph.Fault.rename σ) (renameVisit σ) (visitTarget v seen))
    (v : NodeId) (es : List (RelationId × Relation.Direction)) (seen : Seen) :
    clauses g' visitTarget' (σ.node v) (es.map fun x => (σ.relation x.1, x.2))
        (seen.rewrite σ.rewriting) =
      carry (Graph.Fault.rename σ)
        (fun x => (Expr.rewriteOf σ.rewriting x.1, x.2.rewrite σ.rewriting))
        (clauses g visitTarget v es seen) := by
  induction es generalizing seen with
  | nil => rfl
  | cons x rest ih =>
      obtain ⟨r, dir⟩ := x
      have hmet : σ.relation r ∈ (seen.rewrite σ.rewriting).relations ↔ r ∈ seen.relations :=
        List.mem_map_of_injective σ.relation.injective
      rw [List.map_cons, clauses, clauses]
      simp only [hmet]
      split
      · exact ih seen
      · refine carry_bind (h.requireRelation r) fun relation => ?_
        have hother : (relation.rename σ.node).other (σ.node v) =
            some ((relation.rename σ.node).far dir) ↔
              relation.other v = some (relation.far dir) := by
          rw [Relation.other_rename σ.node.injective, Relation.far_rename, ← Option.map_some,
            (Option.map_injective σ.node.injective).eq_iff]
        simp only [hother]
        split
        · -- The target is visited with the relation met, and then the other relations are read.
          rw [Relation.far_rename]
          refine carry_bind (hvisit _ { seen with relations := r :: seen.relations }) fun x => ?_
          exact carry_bind (ih x.2) fun y => rfl
        · rfl

theorem visit_rename [Pattern.Dialect] (h : g.Renames σ g') (labels : LabelTable)
    (groupLabels : Bool) (depth : Nat) (v : NodeId) (seen : Seen) :
    visit g' (labels.rename σ.node id) groupLabels depth (σ.node v) (seen.rewrite σ.rewriting) =
      carry (Graph.Fault.rename σ) (renameVisit σ) (visit g labels groupLabels depth v seen) := by
  induction depth generalizing v seen with
  | zero => rfl
  | succ depth ih =>
      have hold : σ.node v ∈ (seen.rewrite σ.rewriting).nodes ↔ v ∈ seen.nodes :=
        List.mem_map_of_injective σ.node.injective
      rw [visit, visit]
      refine carry_bind (LabelTable.require_rename labels v) fun label => ?_
      simp only [hold]
      split
      · rfl
      · refine carry_bind (h.requireNode v) fun node => ?_
        rw [ends_rename]
        refine carry_bind (clauses_rename h ih v (ends node) (seen.enter v)) fun x => ?_
        rfl

theorem traverse_rename [Pattern.Dialect] (h : g.Renames σ g') (labels : LabelTable)
    (groupLabels : Bool) (start : NodeId) :
    traverse g' (labels.rename σ.node id) groupLabels (σ.node start) =
      carry (Graph.Fault.rename σ) (renameVisit σ) (traverse g labels groupLabels start) := by
  rw [traverse, traverse, h.nodes, OrderedMap.size_rename]
  exact visit_rename h labels groupLabels _ start {}

/-! ## Compilations -/

/-- A compilation of the renamed graph gives what the compilation of the graph gives, renamed. -/
theorem compileFrom_rename [Pattern.Dialect] (h : g.Renames σ g') (start : NodeId)
    (config : Config) :
    g'.compileFrom (σ.node start) config =
      carry (CompileError.rename σ) (Compiled.rename σ) (g.compileFrom start config) := by
  have hcontains : g'.nodes.contains (σ.node start) = g.nodes.contains start := by
    rw [h.nodes, OrderedMap.contains_rename]
  rw [Graph.compileFrom, Graph.compileFrom, hcontains]
  split
  · simp only [LabelTable.assign_rename h, traverse_rename h]
    cases traverse g (.assign g config.labelStem) config.groupLabels start with
    | error fault => rfl
    | ok x =>
        obtain ⟨e, seen⟩ := x
        have hnodes : (seen.rewrite σ.rewriting).nodes = seen.nodes.map σ.node := rfl
        simp only [carry, renameVisit, hnodes, diagnose_rename h, hasErrors_rename,
          Expr.text_rewrite]
        split <;> rfl
  · rfl

theorem compile_rename [Pattern.Dialect] (h : g.Renames σ g') (config : Config) :
    g'.compile config = carry (CompileError.rename σ) (Compiled.rename σ) (g.compile config) := by
  rw [Graph.compile, Graph.compile, h.head]
  cases g.head with
  | none => rfl
  | some head => exact compileFrom_rename h head config

/-- **Handles do not matter.** If the nodes and the relations of a graph are renamed, a compilation
from the renamed node fails or succeeds as before, and what it gives is the same up to names, with
the same text. And in a graph that has been emptied building goes as in a new one: the answers and
the compilations are the same up to names, and the texts are the same. -/
theorem handles_do_not_matter [Pattern.Dialect] (config : Config) :
    (∀ (σ : Renaming) (g g' : Graph), g.Renames σ g' → ∀ start,
      g'.compileFrom (σ.node start) config =
        carry (CompileError.rename σ) (Compiled.rename σ) (g.compileFrom start config)) ∧
    ∀ g : Graph, g.Buildable → g.nodes.keys = [] → ∀ build : List Graph.Edit,
      g.answers (build.map (Graph.Edit.rename g.fresh)) =
        (Graph.empty.answers build).map (carry (Graph.Error.rename g.fresh)
          (Graph.Answer.rename g.fresh)) ∧
      (g.replay (build.map (Graph.Edit.rename g.fresh))).compile config =
        carry (CompileError.rename g.fresh) (Compiled.rename g.fresh)
          ((Graph.empty.replay build).compile config) ∧
      ∀ c, (Graph.empty.replay build).compile config = .ok c →
        ∃ c', (g.replay (build.map (Graph.Edit.rename g.fresh))).compile config = .ok c' ∧
          c'.text = c.text := by
  refine ⟨fun σ g g' h start => compileFrom_rename h start config, ?_⟩
  intro g hg hempty build
  have haligned := hg.wellFormed.aligned_of_keys_eq_nil hempty
  obtain ⟨hanswers, hreplay⟩ := haligned.replay Graph.wellFormed_empty hg.wellFormed build
  have hcompile := compile_rename hreplay.toRenames config
  refine ⟨hanswers, hcompile, fun c hc => ?_⟩
  rw [hc] at hcompile
  exact ⟨c.rename g.fresh, hcompile, rfl⟩

/-- Two nodes have one label, and one of them is not related to another node. -/
def motley : List Graph.Edit :=
  [.createNode "a", .createNode "b", .createNode "c", .editNode ⟨1⟩ (.setLabel "x"),
    .editNode ⟨2⟩ (.setLabel "x"), .createRelation ⟨1⟩ ⟨0⟩ { kind := .directDescendant },
    .createRelation ⟨0⟩ ⟨1⟩ { kind := .sibling }]

/-- A node and a relation are exchanged for others. -/
def exchange : Renaming where
  node := (Equiv.swap ⟨0⟩ ⟨2⟩).toEmbedding
  relation := (Equiv.swap ⟨0⟩ ⟨1⟩).toEmbedding

/-- Two graphs that have been emptied, one at once and one node by node. -/
def emptied : List Graph :=
  [(Graph.empty.replay motley).replay [.clear],
    (Graph.empty.replay motley).replay ([⟨1⟩, ⟨0⟩, ⟨2⟩].map .forceDeleteNode)]

theorem emptied_keys {g : Graph} (hg : g ∈ emptied) : g.Buildable ∧ g.nodes.keys = [] := by
  simp only [emptied, List.mem_cons, List.not_mem_nil, or_false] at hg
  rcases hg with rfl | rfl
  · exact ⟨⟨motley ++ _, List.foldl_append ..⟩, Graph.keys_replay_clear _⟩
  · have hperm : ([⟨1⟩, ⟨0⟩, ⟨2⟩] : List NodeId).Perm (Graph.empty.replay motley).nodes.keys := by
      decide
    exact ⟨⟨motley ++ _, List.foldl_append ..⟩,
      (Graph.wellFormed_empty.replay motley).keys_replay_forced hperm⟩

theorem handles_do_not_matter_motley :
    (∃ c, ((Graph.empty.replay motley).rename exchange).compileFrom ⟨2⟩ {} = .ok c ∧
      c.text = "a=___g0 $ (b=x > (=___g0))" ∧
      c.diagnostics.map (fun d => (d.node, d.notes.map (·.node))) =
        [(⟨0⟩, [⟨1⟩]), (⟨0⟩, [])]) ∧
    ∀ g ∈ emptied, ∃ c, (g.replay (motley.map (Graph.Edit.rename g.fresh))).compile {} = .ok c ∧
      c.text = "a=___g0 $ (b=x > (=___g0))" := by
  obtain ⟨hrename, hbuild⟩ := handles_do_not_matter {}
  obtain ⟨c, hc, htext, hnodes⟩ : ∃ c, (Graph.empty.replay motley).compileFrom ⟨0⟩ {} = .ok c ∧
      c.text = "a=___g0 $ (b=x > (=___g0))" ∧
      (c.rename exchange).diagnostics.map (fun d => (d.node, d.notes.map (·.node))) =
        [(⟨0⟩, [⟨1⟩]), (⟨0⟩, [])] :=
    ⟨_, rfl, by decide +kernel, rfl⟩
  constructor
  · have hrenames := Graph.renames_rename exchange (.replay .empty motley)
    have hrenamed := hrename exchange _ _ hrenames ⟨0⟩
    have hstart : exchange.node ⟨0⟩ = ⟨2⟩ := by decide
    rw [hc, hstart] at hrenamed
    exact ⟨c.rename exchange, hrenamed, htext, hnodes⟩
  · intro g hg
    obtain ⟨hbuildable, hempty⟩ := emptied_keys hg
    obtain ⟨-, -, hsame⟩ := hbuild g hbuildable hempty motley
    obtain ⟨c', hc', heq⟩ := hsame c hc
    exact ⟨c', hc', heq.trans htext⟩

end Query

end TreeQuery
