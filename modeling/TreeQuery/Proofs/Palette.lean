import TreeQuery.Diagnostic.Printer
import TreeQuery.Proofs.Graph.Dump
import TreeQuery.Proofs.Text.Colour

set_option autoImplicit false

/-! # Colours never change a text

Nothing shows of the escape sequences of a palette (`Palette.Silent`), so what is painted shows as
if it had not been. The dump of a graph and the lines of diagnostics are put together from painted
and unpainted pieces; piece by piece the coloured text shows the uncoloured one, as long as no piece
brings an escape character of its own. -/

namespace TreeQuery

open Text (escape Shows shows_of_plain shows_join shows_intercalate)

/-! ## Palettes -/

/-- Nothing shows of the sequences of a palette. -/
structure Palette.Silent (p : Palette) : Prop where
  blue : Shows p.blue ""
  green : Shows p.green ""
  yellow : Shows p.yellow ""
  red : Shows p.red ""
  dim : Shows p.dim ""
  reset : Shows p.reset ""

theorem Palette.silent_ansi : ansi.Silent where
  blue := Text.shows_sequence ['3', '4'] rfl (by decide)
  green := Text.shows_sequence ['3', '2'] rfl (by decide)
  yellow := Text.shows_sequence ['3', '3'] rfl (by decide)
  red := Text.shows_sequence ['3', '1'] rfl (by decide)
  dim := Text.shows_sequence ['2'] rfl (by decide)
  reset := Text.shows_sequence ['0'] rfl (by decide)

variable {p : Palette}

/-- What is painted shows as if it had not been. -/
theorem Palette.Silent.paint (hp : p.Silent) {colour s t : String} (hcolour : Shows colour "")
    (hs : Shows s t) : Shows (p.paint colour s) (plain.paint "" t) :=
  (hcolour.append hs).append hp.reset

theorem NodeId.shows_text (id : NodeId) : Shows id.text id.text :=
  .plain_append (by decide) (Text.shows_toString _)

theorem RelationId.shows_text (id : RelationId) : Shows id.text id.text :=
  .plain_append (by decide) (Text.shows_toString _)

/-! ## Dumps -/

/-- The names in a label table. -/
def LabelTable.texts (t : LabelTable) : List String := t.entries.map fun e => e.2.name

theorem LabelTable.mem_texts {t : LabelTable} {id : NodeId} {name : String}
    (h : t.name? id = some name) : name ∈ t.texts := by
  obtain ⟨label, hlabel, rfl⟩ := Option.map_eq_some_iff.1 h
  exact List.mem_map.2 ⟨_, OrderedMap.get?_eq_some_iff.1 hlabel, rfl⟩

namespace Graph

variable {g : Graph} {labels : Option LabelTable}

theorem shows_nodeLine (hp : p.Silent) (hlabels : ∀ t ∈ labels, ∀ s ∈ t.texts, escape ∉ s.toList)
    (id : NodeId) {node : Node} (htexts : ∀ s ∈ node.texts, escape ∉ s.toList) :
    Shows (g.nodeLine p labels id node) (g.nodeLine .plain labels id node) := by
  simp only [Node.texts, List.forall_mem_cons, List.forall_mem_map] at htexts
  obtain ⟨hpattern, hlabel, hnames⟩ := htexts
  have hhead : Shows (if g.head = some id then " " ++ p.paint p.dim "(head)" else "")
      (if g.head = some id then " " ++ Palette.plain.paint "" "(head)" else "") := by
    split
    · exact .plain_append (by decide) (hp.paint hp.dim (shows_of_plain (by decide)))
    · exact Text.shows_empty
  have hpainted {label : String} (h : escape ∉ label.toList) :
      Shows (" " ++ p.paint p.blue ("=" ++ label)) (" " ++ Palette.plain.paint "" ("=" ++ label)) :=
    .plain_append (by decide) (hp.paint hp.blue (.plain_append (by decide) (shows_of_plain h)))
  have hgroups := shows_join fun group (hgroup : group ∈ node.namedGroups) =>
    Shows.plain_append (u := " #") (by decide) (Text.shows_toString (group.1 + 1))
      |>.append_plain (u := "%") (by decide)
      |>.append_plain (hnames group hgroup)
  refine (hp.paint hp.blue id.shows_text).append hhead
    |>.append_plain (by decide)
    |>.append (hp.paint hp.green (shows_of_plain hpattern))
    |>.append ?_
    |>.append hgroups
    |>.append_plain (by decide)
  -- What is left is the label, which comes from the table or from the node.
  cases labels with
  | none =>
      cases node.hasLabel with
      | false => exact Text.shows_empty
      | true => exact hpainted hlabel
  | some t =>
      dsimp only
      cases hname : t.name? id with
      | none => exact Text.shows_empty
      | some name => exact hpainted (hlabels t rfl name (LabelTable.mem_texts hname))

theorem shows_relationLine (hp : p.Silent) (id : RelationId) {relation : Relation}
    (htexts : ∀ s ∈ relation.texts, escape ∉ s.toList) :
    Shows (relationLine p id relation) (relationLine .plain id relation) := by
  have hoperator := shows_of_plain
    (Relation.not_mem_operator (by decide) (by decide) htexts .forward)
  exact (hp.paint hp.blue id.shows_text).append_plain (by decide)
    |>.append relation.source.shows_text
    |>.append_plain (by decide)
    |>.append (hp.paint hp.dim hoperator)
    |>.append_plain (by decide)
    |>.append relation.target.shows_text
    |>.append_plain (by decide)

/-- The coloured dump of a graph shows the uncoloured one. -/
theorem shows_dump (hp : p.Silent) (htexts : ∀ s ∈ g.texts, escape ∉ s.toList)
    (hlabels : ∀ t ∈ labels, ∀ s ∈ t.texts, escape ∉ s.toList) :
    Shows (g.dump labels p) (g.dump labels .plain) := by
  obtain ⟨hnodes, hrelations⟩ := List.forall_mem_append.1 htexts
  refine (shows_join fun e he => ?_).append (shows_join fun e he => ?_)
  · exact shows_nodeLine hp hlabels e.1 fun s hs => hnodes s (List.mem_flatMap.2 ⟨e, he, hs⟩)
  · exact shows_relationLine hp e.1 fun s hs => hrelations s (List.mem_flatMap.2 ⟨e, he, hs⟩)

end Graph

/-! ## Diagnostics -/

/-- The texts of a report. -/
def Diagnostic.texts (d : Diagnostic) : List String :=
  d.message :: (d.notes.map Note.message ++ d.hints)

/-- The texts of some reports. -/
def Diagnostics.texts (ds : Diagnostics) : List String := ds.flatMap Diagnostic.texts

namespace Diagnostic

theorem Note.shows_render (hp : p.Silent) {n : Note} (hmessage : escape ∉ n.message.toList) :
    Shows (n.render p) (n.render .plain) :=
  Shows.plain_append (by decide) (hp.paint hp.dim (shows_of_plain (by decide)))
    |>.append_plain (by decide)
    |>.append (hp.paint hp.blue n.node.shows_text)
    |>.append_plain (by decide)
    |>.append_plain hmessage

theorem shows_renderHint (hp : p.Silent) {hint : String} (h : escape ∉ hint.toList) :
    Shows (renderHint p hint) (renderHint .plain hint) :=
  Shows.plain_append (by decide) (hp.paint hp.dim (shows_of_plain (by decide)))
    |>.append_plain (by decide)
    |>.append_plain h

theorem shows_severity (hp : p.Silent) (severity : Severity) :
    Shows (p.paint (p.ofSeverity severity) severity.text)
      (Palette.plain.paint (Palette.plain.ofSeverity severity) severity.text) := by
  cases severity with
  | error => exact hp.paint hp.red (shows_of_plain (by decide))
  | warning => exact hp.paint hp.yellow (shows_of_plain (by decide))

theorem shows_render (hp : p.Silent) {d : Diagnostic} (htexts : ∀ s ∈ d.texts, escape ∉ s.toList) :
    Shows (d.render p) (d.render .plain) := by
  simp only [texts, List.forall_mem_cons, List.forall_mem_append, List.forall_mem_map] at htexts
  obtain ⟨hmessage, hnotes, hhints⟩ := htexts
  exact (shows_severity hp d.severity).append_plain (by decide)
    |>.append (hp.paint hp.blue d.node.shows_text)
    |>.append_plain (by decide)
    |>.append_plain hmessage
    |>.append (shows_join fun n hn => Note.shows_render hp (hnotes n hn))
    |>.append (shows_join fun hint hhint => shows_renderHint hp (hhints hint hhint))

end Diagnostic

/-- Coloured reports show the uncoloured ones. -/
theorem Diagnostics.shows_render (hp : p.Silent) {ds : Diagnostics}
    (htexts : ∀ s ∈ ds.texts, escape ∉ s.toList) : Shows (ds.render p) (ds.render .plain) :=
  shows_intercalate (by decide) fun d hd =>
    Diagnostic.shows_render hp fun s hs => htexts s (List.mem_flatMap.2 ⟨d, hd, hs⟩)

/-! ## With and without colours -/

/-- **Colours never change a text.** Without its escape sequences the coloured dump of a graph, with
or without a label table, is the uncoloured dump, and coloured reports are the uncoloured ones, as
long as no text in them holds an escape character. -/
theorem uncolour_eq_plain :
    (∀ (g : Graph) (labels : Option LabelTable), (∀ s ∈ g.texts, escape ∉ s.toList) →
      (∀ t ∈ labels, ∀ s ∈ t.texts, escape ∉ s.toList) →
        Text.uncolour (g.dump labels (.ofBool true)) = g.dump labels (.ofBool false)) ∧
    ∀ ds : Diagnostics, (∀ s ∈ ds.texts, escape ∉ s.toList) →
      Text.uncolour (ds.render (.ofBool true)) = ds.render (.ofBool false) :=
  ⟨fun _ _ htexts hlabels => (Graph.shows_dump Palette.silent_ansi htexts hlabels).uncolour_eq,
    fun _ htexts => (Diagnostics.shows_render Palette.silent_ansi htexts).uncolour_eq⟩

/-- Two nodes with texts that look like the rest of an escape sequence. -/
def bracketed : Graph :=
  .replay .empty [.createNode "[0m", .createNode "m",
    .createRelation ⟨0⟩ ⟨1⟩ { kind := .descendantVia, via := "[1;3" },
    .editNode ⟨0⟩ (.setLabel "m["), .editNode ⟨0⟩ (.setGroupLabel 1 "[m")]

/-- Reports with such texts, one of them with a note and a hint. -/
def bracketedReports : Diagnostics :=
  [((Diagnostic.about .duplicateLabel ⟨0⟩).withDetail "[31m").withNote "m[" ⟨1⟩,
    (Diagnostic.about .unreachableNode ⟨1⟩).withSeverity .error]

/-- Brackets and letters in the texts are neither lost nor taken for a part of a sequence. -/
theorem uncolour_bracketed :
    ∃ labels, labels = some (LabelTable.assign bracketed "[2m") ∧
      bracketed.dump labels (.ofBool true) ≠ bracketed.dump labels (.ofBool false) ∧
      Text.uncolour (bracketed.dump labels (.ofBool true)) = bracketed.dump labels (.ofBool false) ∧
      bracketed.dump labels (.ofBool false) =
        "N0 (head): [0m =m[ #2%[m\nN1: m =[2m0\nR0: N0 >+([1;3) N1\n" ∧
      Text.uncolour (bracketedReports.render (.ofBool true)) =
        bracketedReports.render (.ofBool false) :=
  ⟨_, rfl, by decide +kernel, uncolour_eq_plain.1 bracketed _ (by decide) (by decide +kernel),
    by decide +kernel, uncolour_eq_plain.2 bracketedReports (by decide)⟩

end TreeQuery
