import TreeQuery.Proofs.Query.Report
import TreeQuery.Proofs.Query.Scope

set_option autoImplicit false

/-! # Labels resolve, or the user is warned

The label of a first mention is the one that the table gives to its node, so a label is given twice
in an expression only if two nodes have it; then users have given it to both, and all nodes that
carry it but the oldest are reported (`Visits.clash`). If nothing of the kind is reported, every
mention that refers back finds the node it means by the label alone (`Visits.resolves`). -/

namespace TreeQuery

/-- A label that two nodes carry is the will of users: both have been given it, and every node that
carries it is reported, but for the oldest. -/
structure Graph.Clash (g : Graph) (labels : LabelTable) (diagnostics : Diagnostics) (name : String)
    (u v : NodeId) : Prop where
  own_left : g.HasOwnLabel u name
  own_right : g.HasOwnLabel v name
  not_generated : labels.isGenerated u = false ∧ labels.isGenerated v = false
  reported : ∃ first, labels.name? first = some name ∧ ∀ w, labels.name? w = some name → w ≠ first →
    first.index < w.index ∧ Graph.duplicateReport name first w ∈ diagnostics

/-- A mention that refers back finds the node that it means by its label: the label is given once in
the expression, by the first mention of that node. -/
def Expr.Resolves (e : Expr) : Prop :=
  ∀ place v name, e.at? place = some (.backRef v name) →
    ∃ first d, e.at? first = some d ∧ d.defines? = some v ∧ d.label = name ∧
      ∀ other d' w, e.at? other = some d' → d'.defines? = some w → d'.label = name → other = first

namespace LabelTable

variable {g : Graph} {stem name : String} {id u v : NodeId}

theorem isGenerated_of_own (h : g.HasOwnLabel id name) :
    (assign g stem).isGenerated id = false := by
  rw [isGenerated, get?_assign_of_own h, Option.any_some]

/-- Once a name is somebody's own, it is the own name of all that carry it. -/
theorem own_of_mem_userLabels (hname : name ∈ userLabels g)
    (h : (assign g stem).name? id = some name) : g.HasOwnLabel id name :=
  (own_or_generated h).resolve_right fun hgenerated => hgenerated.2 hname

/-- Two nodes with one label clash. -/
theorem clash (hg : g.WellFormed) {diagnostics : Diagnostics}
    (hreports : ∀ r ∈ g.duplicateReports, r ∈ diagnostics)
    (hu : (assign g stem).name? u = some name) (hv : (assign g stem).name? v = some name)
    (hne : u ≠ v) : g.Clash (assign g stem) diagnostics name u v := by
  have hown := own_of_name?_eq hu hv hne
  have hown' := own_of_name?_eq hv hu hne.symm
  obtain ⟨first, hfirst, hothers⟩ := Graph.exists_first_owner hg hown
  refine ⟨hown, hown', ⟨isGenerated_of_own hown, isGenerated_of_own hown'⟩, first, ?_, ?_⟩
  · rw [name?, get?_assign_of_own hfirst, Option.map_some]
  · intro w hw hne
    obtain ⟨hlt, hreport⟩ := hothers w (own_of_mem_userLabels (mem_userLabels hown) hw) hne
    exact ⟨hlt, hreports _ hreport⟩

end LabelTable

/-- If two nodes clash, a duplicate label is reported. -/
theorem Graph.Clash.exists_duplicateLabel {g : Graph} {labels : LabelTable}
    {diagnostics : Diagnostics} {name : String} {u v : NodeId}
    (h : g.Clash labels diagnostics name u v) (hu : labels.name? u = some name)
    (hv : labels.name? v = some name) (hne : u ≠ v) :
    ∃ r ∈ diagnostics, r.kind = .duplicateLabel := by
  obtain ⟨first, -, hreported⟩ := h.reported
  by_cases hfirst : u = first
  · exact ⟨_, (hreported v hv fun heq => hne (hfirst.trans heq.symm)).2, rfl⟩
  · exact ⟨_, (hreported u hu hfirst).2, rfl⟩

namespace Query

section

variable [Pattern.Dialect] {g : Graph} {labels : LabelTable} {groupLabels : Bool}

/-! ## The labels that are given -/

mutual

/-- The labels that an expression gives are those of its nodes in the table. -/
theorem Visits.map_definitions {id : NodeId} {seen seen' : Seen} {e : Expr}
    (h : Visits g labels groupLabels id seen e seen') :
    e.definitions.map some = e.nodes.map labels.name? :=
  match h with
  | .back _ _ => rfl
  | .first hlabel _ _ hreads => by
      rw [Expr.definitions, Expr.nodes, List.map_cons, List.map_cons, hlabel,
        hreads.map_definitions]

theorem Reads.map_definitions {id : NodeId} {es : List (RelationId × Relation.Direction)}
    {seen seen' : Seen} {cs : List (Clause Expr)}
    (h : Reads g labels groupLabels id es seen cs seen') :
    (Expr.definitionsOf cs).map some = (Expr.nodesOf cs).map labels.name? :=
  match h with
  | .nil => rfl
  | .skip _ hrest => hrest.map_definitions
  | .read _ _ htarget hrest => by
      rw [Expr.definitionsOf, Expr.nodesOf, List.map_append, List.map_append,
        htarget.map_definitions, hrest.map_definitions]

end

/-- Labels that tell the nodes apart are given once each. -/
theorem Visits.nodup_definitions {start : NodeId} {seen : Seen} {e : Expr}
    (h : Visits g labels groupLabels start {} e seen)
    (hlabels : ∀ u v name, labels.name? u = some name → labels.name? v = some name → u = v) :
    e.definitions.Nodup := by
  have hnodup : (e.nodes.map labels.name?).Nodup := by
    refine h.nodup_expr.1.map_on fun u hu v hv heq => ?_
    obtain ⟨name, -, hname⟩ := List.mem_map.1
      (h.map_definitions ▸ List.mem_map_of_mem hu : labels.name? u ∈ e.definitions.map some)
    exact hlabels u v name hname.symm (heq.symm.trans hname.symm)
  rw [← h.map_definitions] at hnodup
  exact hnodup.of_map

/-- Labels that tell the nodes apart lead back to the nodes that are meant. -/
theorem Visits.resolves (hg : g.WellFormed) {start : NodeId} {seen : Seen} {e : Expr}
    (h : Visits g labels groupLabels start {} e seen)
    (hlabels : ∀ u v name, labels.name? u = some name → labels.name? v = some name → u = v) :
    e.Resolves := by
  intro place v name hback
  obtain ⟨first, d, hd, hdefines, hlabel, hunique⟩ := h.exists_first hg hback
  refine ⟨first, d, hd, hdefines, hlabel, fun other d' w hd' hw hname => ?_⟩
  have hv := h.name?_of_at? hg hd hdefines
  have hw' := h.name?_of_at? hg hd' hw
  obtain rfl : w = v := hlabels w v name (hname ▸ hw') (hlabel ▸ hv)
  exact hunique other d' hd' hw

/-- **Labels resolve, or the user is warned.** If two first mentions of an expression give the same
label, their nodes clash. Without a report about a label, all labels that are given differ, and
every mention that refers back resolves. -/
theorem resolves_of_compileFrom {start : NodeId} {config : Config} {c : Compiled} (hg : g.Buildable)
    (hc : g.compileFrom start config = .ok c) :
    ∃ e, c.expr = some e ∧
      (∀ place place' d d' u v, e.at? place = some d → d.defines? = some u →
        e.at? place' = some d' → d'.defines? = some v → place ≠ place' → d.label = d'.label →
          g.Clash c.labels c.diagnostics d.label u v) ∧
      ((∀ r ∈ c.diagnostics, r.kind ≠ .duplicateLabel) → e.definitions.Nodup ∧ e.Resolves) := by
  obtain ⟨e, seen, htraverse, rfl⟩ := eq_of_compileFrom hc
  have hvisits := visits_of_visit htraverse
  have hwell := hg.wellFormed
  have hreports : ∀ r ∈ g.duplicateReports,
      r ∈ g.diagnose config (.assign g config.labelStem) seen.nodes := by
    intro r hr
    rw [Graph.diagnose, checkLabels_assign]
    exact List.mem_append_left _ (List.mem_append_left _ hr)
  refine ⟨e, rfl, ?_, fun hnone => ?_⟩
  · intro place place' d d' u v hd hu hd' hv hne hlabel
    refine LabelTable.clash hwell hreports (hvisits.name?_of_at? hwell hd hu)
      (hlabel ▸ hvisits.name?_of_at? hwell hd' hv) ?_
    rintro rfl
    exact hne (Expr.place_eq_of_nodup hvisits.nodup_expr.1 hd hu hd' hv)
  · have hlabels : ∀ u v name, (LabelTable.assign g config.labelStem).name? u = some name →
        (LabelTable.assign g config.labelStem).name? v = some name → u = v := by
      intro u v name hu hv
      refine Classical.byContradiction fun hne => ?_
      obtain ⟨r, hr, hkind⟩ :=
        (LabelTable.clash hwell hreports hu hv hne).exists_duplicateLabel hu hv hne
      exact hnone r hr hkind
    exact ⟨hvisits.nodup_definitions hlabels, hvisits.resolves hwell hlabels⟩

end

/-- A triangle in which two nodes have the same label, which would also be the first one generated
for the third with the stem `k`. -/
def namesakes : Graph :=
  .replay .empty [.createNode "a", .createNode "b", .createNode "c", .editNode ⟨0⟩ (.setLabel "k0"),
    .editNode ⟨1⟩ (.setLabel "k0"), .createRelation ⟨0⟩ ⟨1⟩ {}, .createRelation ⟨1⟩ ⟨2⟩ {},
    .createRelation ⟨2⟩ ⟨0⟩ {}]

theorem buildable_namesakes : namesakes.Buildable := ⟨_, rfl⟩

theorem resolves_namesakes :
    (∃ c e, namesakes.compileFrom ⟨0⟩ { labelStem := "k" } = .ok c ∧ c.expr = some e ∧
      e.definitions = ["k0", "k0", "k1"] ∧
      namesakes.Clash c.labels c.diagnostics "k0" ⟨0⟩ ⟨1⟩) ∧
    ∃ c e, knot.compileFrom ⟨0⟩ {} = .ok c ∧ c.expr = some e ∧ e.definitions.Nodup ∧
      e.Resolves := by
  constructor
  · obtain ⟨c, hc⟩ : ∃ c, namesakes.compileFrom ⟨0⟩ { labelStem := "k" } = .ok c := ⟨_, rfl⟩
    obtain ⟨e, he, hclash, -⟩ := resolves_of_compileFrom buildable_namesakes hc
    have hdefinitions : e.definitions = ["k0", "k0", "k1"] := eq_of_compileFrom_map hc he rfl
    have hroot : (e.at? []).map (fun d => (d.defines?, d.label)) = some (some ⟨0⟩, "k0") :=
      eq_of_compileFrom_map (f := fun e => (e.at? []).map _) hc he rfl
    have hbelow : (e.at? [0]).map (fun d => (d.defines?, d.label)) = some (some ⟨1⟩, "k0") :=
      eq_of_compileFrom_map (f := fun e => (e.at? [0]).map _) hc he rfl
    obtain ⟨d, hd, hd'⟩ := Option.map_eq_some_iff.1 hroot
    obtain ⟨b, hb, hb'⟩ := Option.map_eq_some_iff.1 hbelow
    obtain ⟨hu, hlabel⟩ := Prod.mk.inj hd'
    obtain ⟨hv, hlabel'⟩ := Prod.mk.inj hb'
    have hclash := hclash [] [0] d b ⟨0⟩ ⟨1⟩ hd hu hb hv (by decide) (hlabel.trans hlabel'.symm)
    exact ⟨c, e, hc, he, hdefinitions, hlabel ▸ hclash⟩
  · obtain ⟨c, hc, hnone⟩ : ∃ c, knot.compileFrom ⟨0⟩ {} = .ok c ∧ c.diagnostics = [] :=
      ⟨_, rfl, rfl⟩
    obtain ⟨e, he, -, hresolves⟩ := resolves_of_compileFrom buildable_knot hc
    obtain ⟨hnodup, hresolves⟩ := hresolves (by simp [hnone])
    exact ⟨c, e, hc, he, hnodup, hresolves⟩

end Query

end TreeQuery
