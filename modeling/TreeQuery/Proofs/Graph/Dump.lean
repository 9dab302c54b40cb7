import TreeQuery.Graph.Dump
import TreeQuery.Proofs.Graph.History
import TreeQuery.Proofs.Node
import TreeQuery.Proofs.Query.Alike
import TreeQuery.Proofs.Query.Decoding
import TreeQuery.Proofs.Text.Sheet

set_option autoImplicit false

/-! # What a dump says

A dump without colours and label table is a sheet: each line is a `Row` of the graph, and the cells
of a row tell everything about it (`Row.cells_injective`). So graphs with the same dump look alike,
as long as no text in them holds a blank or a line feed, which would pass for another cell or
another row (`dump_eq_iff`). -/

namespace TreeQuery

/-! ## Texts of a graph -/

/-- The texts of a node. -/
def Node.texts (node : Node) : List String :=
  node.pattern :: node.label :: node.namedGroups.map Prod.snd

/-- The texts of a relation: the via pattern, if the kind uses it. -/
def Relation.texts (relation : Relation) : List String :=
  if relation.descriptor.kind.hasViaArg then [relation.descriptor.via] else []

/-- All texts in a graph that show in its dump. -/
def Graph.texts (g : Graph) : List String :=
  (g.nodes.entries.flatMap fun e => e.2.texts) ++ g.relations.entries.flatMap fun e => e.2.texts

theorem Relation.not_mem_operator {relation : Relation} {c : Char}
    (hsymbol : c ∉ Descriptor.symbols) (hdigit : c.isDigit = false)
    (htexts : ∀ s ∈ relation.texts, c ∉ s.toList) (dir : Direction) :
    c ∉ (relation.operator dir).toList := by
  refine Descriptor.not_mem_operator hsymbol hdigit (fun harg => htexts _ ?_) dir
  rw [texts, if_pos harg]
  exact List.mem_singleton_self _

/-! ## Handles -/

theorem NodeId.text_injective : Function.Injective text := by
  intro id id' h
  rw [NodeId.mk.injEq]
  exact Text.toString_injective ((String.append_right_inj "N").1 h)

theorem RelationId.text_injective : Function.Injective text := by
  intro id id' h
  rw [RelationId.mk.injEq]
  exact Text.toString_injective ((String.append_right_inj "R").1 h)

theorem NodeId.not_mem_text {c : Char} (hletter : c ≠ 'N') (hdigit : c.isDigit = false)
    (id : NodeId) : c ∉ id.text.toList := by
  rw [text, String.toList_append, List.mem_append, not_or]
  exact ⟨fun hmem => hletter (List.mem_singleton.1 hmem), Text.not_mem_toString hdigit _⟩

namespace Graph

/-! ## Rows -/

/-- What a line of a dump says. -/
inductive Row
  | node (id : NodeId) (isHead : Bool) (pattern label : String) (groups : List (Nat × String))
  | relation (id : RelationId) (source target : NodeId) (operator : String)
  deriving DecidableEq, Repr

namespace Row

/-- The cells in front of a pattern; a colon ends them. -/
def idCells (id : NodeId) : Bool → List String
  | true => [id.text, "(head):"]
  | false => [id.text ++ ":"]

/-- The cells behind a pattern. -/
def nameCells (label : String) (groups : List (Nat × String)) : List String :=
  (if label = "" then [] else ["=" ++ label]) ++ groups.map Expr.groupText

/-- The cells of a row. -/
def cells : Row → List String
  | node id isHead pattern label groups => idCells id isHead ++ pattern :: nameCells label groups
  | relation id source target operator => [id.text ++ ":", source.text, operator, target.text]

/-- The texts in a row. -/
def texts : Row → List String
  | node _ _ pattern label groups => pattern :: label :: groups.map Prod.snd
  | relation _ _ _ operator => [operator]

/-- The row of a node, given the head of the graph. -/
def ofNode (head : Option NodeId) (id : NodeId) (n : Node) : Row :=
  node id (head = some id) n.pattern n.label n.namedGroups

/-- The row of a relation. -/
def ofRelation (id : RelationId) (r : Relation) : Row :=
  relation id r.source r.target (r.operator .forward)

/-- Whether the row is that of a node. -/
def isNode : Row → Bool
  | node _ _ _ _ _ => true
  | relation _ _ _ _ => false

/-! ### Rows can be told from their cells -/

theorem idCells_append_injective {id id' : NodeId} {isHead isHead' : Bool}
    {rest rest' : List String} (h : idCells id isHead ++ rest = idCells id' isHead' ++ rest') :
    id = id' ∧ isHead = isHead' ∧ rest = rest' := by
  have hcolon := NodeId.not_mem_text (c := ':') (by decide) (by decide)
  cases isHead <;> cases isHead' <;> simp only [idCells, List.cons_append, List.nil_append,
    List.cons.injEq, String.append_left_inj, NodeId.text_injective.eq_iff] at h
  · exact ⟨h.1, rfl, h.2⟩
  · exact absurd (h.1 ▸ hcolon id') (by simp)
  · exact absurd (h.1 ▸ hcolon id) (by simp)
  · exact ⟨h.1, rfl, h.2.2⟩

/-- A label begins with another character than a group. -/
theorem groupText_ne (group : Nat × String) (label : String) :
    Expr.groupText group ≠ "=" ++ label := by
  intro h
  have hfirst := congrArg (·.toList.head?) h
  simp [Expr.toList_groupText] at hfirst

theorem nameCells_injective {label label' : String} {groups groups' : List (Nat × String)}
    (h : nameCells label groups = nameCells label' groups') :
    label = label' ∧ groups = groups' := by
  have hmap := List.map_injective_iff.2 Expr.groupText_injective
  have hlabel {groups groups' : List (Nat × String)} {label : String} :
      groups.map Expr.groupText ≠ ("=" ++ label) :: groups'.map Expr.groupText := by
    intro heq
    obtain ⟨group, -, -, hgroup, -⟩ := List.map_eq_cons_iff.1 heq
    exact groupText_ne group label hgroup
  rw [nameCells, nameCells] at h
  split at h <;> split at h <;> simp only [List.nil_append, List.cons_append] at h
  · next hempty hempty' => exact ⟨hempty.trans hempty'.symm, hmap h⟩
  · exact absurd h hlabel
  · exact absurd h.symm hlabel
  · rw [List.cons.injEq, String.append_right_inj] at h
    exact ⟨h.1, hmap h.2⟩

/-- The handle of a node begins with another character than that of a relation. -/
theorem idCells_append_ne (id : NodeId) (isHead : Bool) (r : RelationId)
    (rest rest' : List String) : idCells id isHead ++ rest ≠ (r.text ++ ":") :: rest' := by
  intro h
  have hfirst := congrArg (fun cells => cells.head?.map fun cell => cell.toList.head?) h
  cases isHead <;> simp [idCells, NodeId.text, RelationId.text] at hfirst

/-- **A row can be told from its cells.** -/
theorem cells_injective : Function.Injective cells := by
  intro row row' h
  cases row with
  | node id isHead pattern label groups =>
      cases row' with
      | node id' isHead' pattern' label' groups' =>
          obtain ⟨rfl, rfl, hrest⟩ := idCells_append_injective h
          obtain ⟨rfl, hnames⟩ := List.cons.inj hrest
          obtain ⟨rfl, rfl⟩ := nameCells_injective hnames
          rfl
      | relation r source target operator => exact absurd h (idCells_append_ne id isHead r _ _)
  | relation r source target operator =>
      cases row' with
      | node id isHead pattern label groups =>
          exact absurd h.symm (idCells_append_ne id isHead r _ _)
      | relation r' source' target' operator' =>
          simp only [cells, List.cons.injEq, String.append_left_inj, NodeId.text_injective.eq_iff,
            RelationId.text_injective.eq_iff, and_true] at h
          obtain ⟨rfl, rfl, rfl, rfl⟩ := h
          rfl

/-! ### Rows without gaps -/

/-- The characters of rows, but for numbers and texts. -/
def marks : List Char := ['N', 'R', ':', '(', 'h', 'e', 'a', 'd', ')', '=', '#', '%']

/-- What is neither a mark nor a digit is in a cell only if it comes from a text. -/
theorem not_mem_cells {row : Row} {c : Char} (hmark : c ∉ marks) (hdigit : c.isDigit = false)
    (htexts : ∀ s ∈ row.texts, c ∉ s.toList) : ∀ cell ∈ row.cells, c ∉ cell.toList := by
  have hmarks {s : String} (hs : s.toList.all (· ∈ marks)) : c ∉ s.toList :=
    fun hmem => hmark (of_decide_eq_true (List.all_eq_true.1 hs c hmem))
  have happend {s t : String} (hs : c ∉ s.toList) (ht : c ∉ t.toList) : c ∉ (s ++ t).toList := by
    rw [String.toList_append, List.mem_append, not_or]
    exact ⟨hs, ht⟩
  have hletter : c ≠ 'N' := by
    rintro rfl
    exact hmark (by decide)
  have hnode := NodeId.not_mem_text hletter hdigit
  cases row with
  | node id isHead pattern label groups =>
      simp only [texts, List.forall_mem_cons, List.forall_mem_map] at htexts
      obtain ⟨hpattern, hlabel, hgroups⟩ := htexts
      refine List.forall_mem_append.2 ⟨?_, List.forall_mem_cons.2
        ⟨hpattern, List.forall_mem_append.2 ⟨?_, List.forall_mem_map.2 fun group hgroup => ?_⟩⟩⟩
      · cases isHead with
        | false => exact List.forall_mem_singleton.2 (happend (hnode id) (hmarks (by decide)))
        | true =>
            exact List.forall_mem_cons.2
              ⟨hnode id, List.forall_mem_singleton.2 (hmarks (by decide))⟩
      · split
        · exact List.forall_mem_nil _
        · exact List.forall_mem_singleton.2 (happend (hmarks (by decide)) hlabel)
      · exact happend (happend (happend (hmarks (by decide)) (Text.not_mem_toString hdigit _))
          (hmarks (by decide))) (hgroups group hgroup)
  | relation id source target operator =>
      have hid : c ∉ (id.text ++ ":").toList :=
        happend (happend (hmarks (by decide)) (Text.not_mem_toString hdigit _)) (hmarks (by decide))
      have hoperator := htexts operator (List.mem_singleton_self _)
      simp only [cells, List.forall_mem_cons]
      exact ⟨hid, hnode source, hoperator, hnode target, List.forall_mem_nil _⟩

/-! ### Rows of nodes and relations -/

theorem ofNode_eq_iff {head head' : Option NodeId} {id id' : NodeId} {node node' : Node} :
    ofNode head id node = ofNode head' id' node' ↔
      id = id' ∧ (head = some id ↔ head' = some id') ∧ node.SameTexts node' := by
  rw [ofNode, ofNode, Row.node.injEq, decide_eq_decide]
  constructor
  · rintro ⟨hid, hhead, hpattern, hlabel, hgroups⟩
    exact ⟨hid, hhead, hpattern, hlabel, Node.groupLabels_eq_of_namedGroups_eq hgroups⟩
  · rintro ⟨hid, hhead, hpattern, hlabel, hgroups⟩
    refine ⟨hid, hhead, hpattern, hlabel, ?_⟩
    simp only [Node.namedGroups, Node.groupLabel?, hgroups]

theorem ofRelation_eq_iff {r r' : RelationId} {relation relation' : Relation} :
    ofRelation r relation = ofRelation r' relation' ↔ r = r' ∧ relation.Agrees relation' := by
  rw [ofRelation, ofRelation, Row.relation.injEq]
  constructor
  · rintro ⟨hid, hsource, htarget, hoperator⟩
    have hface := Relation.Descriptor.face_eq_of_operator_eq hoperator
    exact ⟨hid, hsource, htarget, Relation.Descriptor.agrees_of_face_eq hface⟩
  · rintro ⟨hid, hagrees⟩
    exact ⟨hid, hagrees.source, hagrees.target, hagrees.operator_eq .forward⟩

/-! ### Lines -/

theorem line_idCells (id : NodeId) (isHead : Bool) (pattern : String) (names : List String) :
    Text.line (idCells id isHead ++ pattern :: names) =
      id.text ++ (if isHead then " (head)" else "") ++ ": " ++ pattern
        ++ String.join (names.map (" " ++ ·)) ++ "\n" := by
  have hcolon : ": " = ":" ++ " " := rfl
  have hopen : " (head)" = " " ++ "(head)" := rfl
  have hclose : "(head):" = "(head)" ++ ":" := rfl
  cases isHead <;>
    simp only [idCells, List.cons_append, List.nil_append, Text.line_cons, List.map_cons,
      String.join_cons, hcolon, hopen, hclose, String.append_assoc, Bool.false_eq_true, if_false,
      if_true, String.empty_append]

theorem join_nameCells (label : String) (groups : List (Nat × String)) :
    String.join ((nameCells label groups).map (" " ++ ·)) =
      (if label = "" then "" else " " ++ ("=" ++ label)) ++ String.join (groups.map fun group =>
        " #" ++ toString (group.1 + 1) ++ "%" ++ group.2) := by
  have hgroup (group : Nat × String) :
      " " ++ Expr.groupText group = " #" ++ toString (group.1 + 1) ++ "%" ++ group.2 := by
    rw [Expr.groupText, ← String.append_assoc, ← String.append_assoc, ← String.append_assoc]
    rfl
  rw [nameCells, List.map_append, String.join_append, List.map_map]
  simp only [Function.comp_def, hgroup]
  split <;> simp

end Row

/-! ## Rows of a graph -/

/-- The rows of the nodes of a graph. -/
def nodeRows (g : Graph) : List Row := g.nodes.entries.map fun e => .ofNode g.head e.1 e.2

/-- The rows of the relations of a graph. -/
def relationRows (g : Graph) : List Row := g.relations.entries.map fun e => .ofRelation e.1 e.2

/-- The rows of the dump of a graph. -/
def rows (g : Graph) : List Row := g.nodeRows ++ g.relationRows

theorem nodeLine_eq_line (g : Graph) (id : NodeId) (node : Node) :
    g.nodeLine .plain none id node = Text.line (Row.ofNode g.head id node).cells := by
  rw [Row.ofNode, Row.cells, Row.line_idCells, Row.join_nameCells, nodeLine]
  by_cases hlabel : node.label = "" <;>
    simp [Palette.plain, Palette.paint, Node.hasLabel, hlabel, String.append_assoc]

theorem relationLine_eq_line (r : RelationId) (relation : Relation) :
    relationLine .plain r relation = Text.line (Row.ofRelation r relation).cells := by
  have hcolon : ": " = ":" ++ " " := rfl
  simp only [Row.ofRelation, Row.cells, relationLine, Palette.plain, Palette.paint, Text.line_cons,
    List.map_cons, List.map_nil, String.join_cons, String.join_nil, hcolon, String.append_assoc,
    String.empty_append, String.append_empty]

/-- A dump without colours and label table is the sheet of its rows. -/
theorem dump_eq_sheet (g : Graph) : g.dump none .plain = Text.sheet (g.rows.map Row.cells) := by
  simp only [dump, rows, nodeRows, relationRows, Text.sheet, List.map_append, String.join_append,
    List.map_map, nodeLine_eq_line, relationLine_eq_line]
  rfl

variable {g g' : Graph}

theorem not_mem_texts_of_mem_rows {c : Char} (hsymbol : c ∉ Relation.Descriptor.symbols)
    (hdigit : c.isDigit = false) (htexts : ∀ s ∈ g.texts, c ∉ s.toList) {row : Row}
    (hrow : row ∈ g.rows) : ∀ s ∈ row.texts, c ∉ s.toList := by
  obtain ⟨hnodes, hrelations⟩ := List.forall_mem_append.1 htexts
  rcases List.mem_append.1 hrow with hrow | hrow
  · obtain ⟨e, he, rfl⟩ := List.mem_map.1 hrow
    exact fun s hs => hnodes s (List.mem_flatMap.2 ⟨e, he, hs⟩)
  · obtain ⟨e, he, rfl⟩ := List.mem_map.1 hrow
    refine List.forall_mem_singleton.2 (Relation.not_mem_operator hsymbol hdigit ?_ .forward)
    exact fun s hs => hrelations s (List.mem_flatMap.2 ⟨e, he, hs⟩)

theorem separable_of_mem_rows (htexts : ∀ s ∈ g.texts, ' ' ∉ s.toList ∧ '\n' ∉ s.toList) {row : Row}
    (hrow : row ∈ g.rows) : Text.Separable row.cells where
  ne_nil := by
    cases row with
    | node id isHead pattern label groups => cases isHead <;> exact List.cons_ne_nil _ _
    | relation id source target operator => exact List.cons_ne_nil _ _
  blank := Row.not_mem_cells (by decide) (by decide) <|
    not_mem_texts_of_mem_rows (by decide) (by decide) (fun s hs => (htexts s hs).1) hrow
  lineFeed := Row.not_mem_cells (by decide) (by decide) <|
    not_mem_texts_of_mem_rows (by decide) (by decide) (fun s hs => (htexts s hs).2) hrow

/-! ## The rows of two graphs -/

/-- Two graphs have the same rows if the rows of their nodes and those of their relations are the
same. -/
theorem rows_eq_iff :
    g.rows = g'.rows ↔ g.nodeRows = g'.nodeRows ∧ g.relationRows = g'.relationRows := by
  have hnodes (g : Graph) : g.rows.filter Row.isNode = g.nodeRows := by
    have hself : g.nodeRows.filter Row.isNode = g.nodeRows :=
      List.filter_eq_self.2 (List.forall_mem_map.2 fun _ _ => rfl)
    have hnil : g.relationRows.filter Row.isNode = [] :=
      List.filter_eq_nil_iff.2 (List.forall_mem_map.2 fun _ _ => Bool.false_ne_true)
    rw [rows, List.filter_append, hself, hnil, List.append_nil]
  constructor
  · intro h
    have hrows : g.nodeRows = g'.nodeRows := by rw [← hnodes g, h, hnodes g']
    rw [rows, rows, hrows, List.append_cancel_left_eq] at h
    exact ⟨hrows, h⟩
  · rintro ⟨hnodes, hrelations⟩
    rw [rows, rows, hnodes, hrelations]

/-- A head is one of the nodes, so it is known from the marks of the nodes. -/
theorem head_eq_of_marks (hg : g.WellFormed) (hg' : g'.WellFormed)
    (hkeys : g.nodes.keys = g'.nodes.keys)
    (hmarks : ∀ id ∈ g.nodes.keys, g.head = some id ↔ g'.head = some id) : g.head = g'.head := by
  refine Option.ext fun id => ⟨fun h => ?_, fun h => ?_⟩
  · exact (hmarks id (hg.head_live h)).1 h
  · exact (hmarks id (hkeys ▸ hg'.head_live h)).2 h

/-- **Rows tell everything that shows.** -/
theorem rows_eq_iff_alike (hg : g.WellFormed) (hg' : g'.WellFormed) :
    g.rows = g'.rows ↔ g.Alike g' := by
  rw [rows_eq_iff, nodeRows, nodeRows, relationRows, relationRows,
    OrderedMap.map_entries_eq_iff (f := Row.ofNode g.head) (u := Row.ofNode g'.head)
      fun h => (Row.ofNode_eq_iff.1 h).1,
    OrderedMap.map_entries_eq_iff (f := Row.ofRelation) (u := Row.ofRelation)
      fun h => (Row.ofRelation_eq_iff.1 h).1]
  simp only [Row.ofNode_eq_iff, Row.ofRelation_eq_iff, true_and]
  constructor
  · rintro ⟨⟨hids, hnodes⟩, hrelationIds, hrelations⟩
    have hhead := head_eq_of_marks hg hg' hids fun id hid => by
      obtain ⟨node, hn⟩ := OrderedMap.mem_keys_iff.1 hid
      obtain ⟨node', hn'⟩ := OrderedMap.mem_keys_iff.1 (hids ▸ hid)
      exact (hnodes hn hn').1
    exact ⟨hids, hhead, fun hn hn' => (hnodes hn hn').2, hrelationIds, hrelations⟩
  · intro h
    exact ⟨⟨h.node_ids, fun hn hn' => ⟨by rw [h.head], h.node hn hn'⟩⟩, h.relation_ids, h.relation⟩

/-! ## Dumps -/

/-- **Dumps are faithful.** Two graphs without blanks and line feeds in their texts have the same
dump exactly if they have the same nodes with the same texts, the same head, and the same relations
with the same ends and with descriptors that mean the same, all in the same order. Then they also
have the same queries, from every start and with all options. -/
theorem dump_faithful [Pattern.Dialect] (hg : g.Buildable) (hg' : g'.Buildable)
    (htexts : ∀ s ∈ g.texts, ' ' ∉ s.toList ∧ '\n' ∉ s.toList)
    (htexts' : ∀ s ∈ g'.texts, ' ' ∉ s.toList ∧ '\n' ∉ s.toList) :
    (g.dump none .plain = g'.dump none .plain ↔ g.Alike g') ∧
    (g.dump none .plain = g'.dump none .plain →
      (∀ start config, g.compileFrom start config = g'.compileFrom start config) ∧
      ∀ config, g.compile config = g'.compile config) := by
  have hwell := hg.wellFormed
  have hwell' := hg'.wellFormed
  have halike : g.dump none .plain = g'.dump none .plain ↔ g.Alike g' := by
    rw [← rows_eq_iff_alike hwell hwell', dump_eq_sheet, dump_eq_sheet]
    refine ⟨fun h => ?_, fun h => by rw [h]⟩
    have hcells := Text.eq_of_sheet_eq
      (List.forall_mem_map.2 fun _ hrow => separable_of_mem_rows htexts hrow)
      (List.forall_mem_map.2 fun _ hrow => separable_of_mem_rows htexts' hrow) h
    exact List.map_injective_iff.2 Row.cells_injective hcells
  refine ⟨halike, fun h => ?_⟩
  have hsame := halike.1 h
  exact ⟨hsame.compileFrom_eq hwell hwell', hsame.compile_eq hwell hwell'⟩

/-- How two nodes are made, with a label, a named group and an empty pattern, and relations in both
directions. -/
def sketch : List Edit :=
  [.createNode "a(b)", .createNode "", .createRelation ⟨0⟩ ⟨1⟩ {},
    .createRelation ⟨1⟩ ⟨0⟩ { kind := .precedesVia, via := "c" }, .setHead ⟨1⟩,
    .editNode ⟨0⟩ (.setLabel "x"), .editNode ⟨0⟩ (.setGroupLabel 0 "y")]

/-- Another node comes and goes, and a relation gets arguments that its kind does not use. -/
def detour : List Edit :=
  [.createNode "d", .createRelation ⟨2⟩ ⟨0⟩ {}, .forceDeleteNode ⟨2⟩, .editRelation ⟨0⟩ (.setN 7),
    .editRelation ⟨0⟩ (.setVia "e f")]

def drawn : Graph := .replay .empty sketch

def redrawn : Graph := .replay .empty (sketch ++ detour)

/-- The detour is not seen in the dump, and so not in any query either. -/
theorem dump_redrawn : drawn ≠ redrawn ∧ drawn.dump none .plain = redrawn.dump none .plain ∧
    drawn.Alike redrawn ∧
    (∀ start config, drawn.compileFrom start config = redrawn.compileFrom start config) ∧
    ∀ config, drawn.compile config = redrawn.compile config := by
  have hdrawn : drawn.Buildable := ⟨sketch, rfl⟩
  have hredrawn : redrawn.Buildable := ⟨sketch ++ detour, rfl⟩
  have hfaithful := dump_faithful hdrawn hredrawn (by decide) (by decide)
  have hdump : drawn.dump none .plain = redrawn.dump none .plain := by decide
  exact ⟨by decide, hdump, hfaithful.1.1 hdump, hfaithful.2 hdump⟩

end Graph

end TreeQuery
