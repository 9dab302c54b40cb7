import TreeQuery.Proofs.LabelTable
import TreeQuery.Proofs.Query.Recovery
import TreeQuery.Proofs.Text.Parenthesis

set_option autoImplicit false

/-! # Parentheses nest

If the texts that a query is made of are balanced, so is the query (`Expr.balanced_text`): what is
written around them is a pair of parentheses for every target and for every via pattern. And then
the two parentheses around a target are partners, and what stands between them is the text of the
target (`Expr.exists_partner?`): what is written inside has no say in where the target ends. -/

namespace TreeQuery

open Text

/-! ## What clauses are written with -/

namespace Relation.Descriptor

variable {d : Descriptor}

theorem balanced_token (hvia : Balanced d.via.toList) (dir : Direction) :
    Balanced (d.token dir).toList := by
  obtain ⟨kind, negative, optional, n, via⟩ := d
  cases kind with
  | nthChild | nthToLastChild =>
      by_cases hn : n = .first
      · simp only [token, hn, if_true]
        cases dir <;> decide
      · simp only [token, hn, if_false, String.toList_append]
        exact .append (by cases dir <;> decide) (balanced_toString n.value)
  | descendantVia | precedesVia =>
      simp only [token, String.toList_append, List.append_assoc]
      refine .append (by cases dir <;> decide) ?_
      have hplus : Balanced ['+'] := by decide
      exact hplus.append hvia.enclose
  | _ =>
      simp only [token]
      cases dir <;> decide

theorem balanced_operator (hvia : Balanced d.via.toList) (dir : Direction) :
    Balanced (d.operator dir).toList := by
  have htoken := balanced_token hvia dir
  rw [operator, String.toList_append, String.toList_append]
  refine .append (.append ?_ ?_) htoken
  · split <;> decide
  · split <;> decide

end Relation.Descriptor

namespace Expr

/-- The texts that a mention is made of, without those of the targets, are balanced. -/
def BalancedMention : Expr → Prop
  | backRef _ label => Balanced label.toList
  | define _ pattern groups label clauses =>
    Balanced pattern.toList ∧ (∀ g ∈ groups, Balanced g.2.toList) ∧ Balanced label.toList ∧
      ∀ c ∈ clauses, Balanced c.operator.toList

/-- The texts that all mentions are made of are balanced. -/
def BalancedTexts (e : Expr) : Prop := ∀ place d, e.at? place = some d → d.BalancedMention

theorem BalancedTexts.root {e : Expr} (h : e.BalancedTexts) : e.BalancedMention := h [] e rfl

theorem BalancedTexts.of_at? {e d : Expr} {place : List Nat} (h : e.BalancedTexts)
    (hd : e.at? place = some d) : d.BalancedTexts := by
  intro place' d' hd'
  exact h (place ++ place') d' (by rw [at?_append, hd, Option.bind_some, hd'])

theorem balanced_groupText {g : Nat × String} (h : Balanced g.2.toList) :
    Balanced (groupText g).toList := by
  simp only [groupText, String.toList_append]
  exact .append (.append (.append (by decide) (balanced_toString _)) (by decide)) h

theorem balanced_join {groups : List (Nat × String)} (h : ∀ g ∈ groups, Balanced g.2.toList) :
    Balanced (String.join (groups.map groupText)).toList := by
  induction groups with
  | nil => exact balanced_nil
  | cons g groups ih =>
      rw [List.map_cons, String.join_cons, String.toList_append]
      obtain ⟨hg, hgroups⟩ := List.forall_mem_cons.1 h
      exact (balanced_groupText hg).append (ih hgroups)

mutual

theorem balanced_text (e : Expr) (h : e.BalancedTexts) : Balanced e.text.toList := by
  cases e with
  | backRef v label =>
      rw [text, String.toList_append]
      exact .append (by decide) h.root
  | define v pattern groups label clauses =>
      obtain ⟨hpattern, hgroups, hlabel, hoperators⟩ := h.root
      have htargets : ∀ c ∈ clauses, c.target.BalancedTexts := by
        intro c hc
        obtain ⟨i, hi⟩ := exists_at?_target hc
        exact h.of_at? hi
      have hclauses := balanced_clausesText clauses hoperators htargets
      simp only [text, String.toList_append]
      exact .append (.append (.append (hpattern.append (balanced_join hgroups)) (by decide)) hlabel)
        hclauses

theorem balanced_clausesText (cs : List (Clause Expr))
    (hoperators : ∀ c ∈ cs, Balanced c.operator.toList) (h : ∀ c ∈ cs, c.target.BalancedTexts) :
    Balanced (clausesText cs).toList := by
  match cs with
  | [] => exact balanced_nil
  | ⟨r, operator, target⟩ :: rest =>
      obtain ⟨hoperator, hoperators⟩ := List.forall_mem_cons.1 hoperators
      obtain ⟨htarget, hrest⟩ := List.forall_mem_cons.1 h
      have hinner := (balanced_text target htarget).enclose
      have hbehind := balanced_clausesText rest hoperators hrest
      have htext : (clausesText (⟨r, operator, target⟩ :: rest)).toList =
          [' '] ++ operator.toList ++ [' '] ++ ('(' :: (target.text.toList ++ [')'])) ++
            (clausesText rest).toList := by
        simp [clausesText]
      rw [htext]
      exact .append (.append (.append (.append (by decide) hoperator) (by decide)) hinner) hbehind

end

/-! ## Where targets stand -/

/-- The text in front of the mention at a place. -/
def before : Expr → List Nat → String
  | define _ pattern groups label clauses, i :: place =>
    match clauses[i]? with
    | some c => pattern ++ String.join (groups.map groupText) ++ "=" ++ label ++
        clausesText (clauses.take i) ++ " " ++ c.operator ++ " (" ++ before c.target place
    | none => ""
  | _, _ => ""

/-- The text behind the mention at a place. -/
def behind : Expr → List Nat → String
  | define _ _ _ _ clauses, i :: place =>
    match clauses[i]? with
    | some c => behind c.target place ++ ")" ++ clausesText (clauses.drop (i + 1))
    | none => ""
  | _, _ => ""

theorem clausesText_append (cs cs' : List (Clause Expr)) :
    clausesText (cs ++ cs') = clausesText cs ++ clausesText cs' := by
  induction cs with
  | nil => rfl
  | cons c cs ih => simp only [List.cons_append, clausesText, ih, String.append_assoc]

/-- A mention is written at its place. -/
theorem text_eq {e d : Expr} {place : List Nat} (hd : e.at? place = some d) :
    e.text = e.before place ++ d.text ++ e.behind place := by
  induction place generalizing e with
  | nil =>
      obtain rfl : e = d := Option.some.inj hd
      cases e <;> simp [before, behind]
  | cons i place ih =>
      obtain ⟨v, pattern, groups, label, clauses, c, rfl, hc, hd⟩ := at?_cons_eq_some_iff.1 hd
      obtain ⟨hlt, hget⟩ := List.getElem?_eq_some_iff.1 hc
      have hclauses : clauses = clauses.take i ++ c :: clauses.drop (i + 1) := by
        rw [← hget, ← List.drop_eq_getElem_cons hlt, List.take_append_drop]
      have htext : clausesText clauses =
          clausesText (clauses.take i) ++ " " ++ c.operator ++ " (" ++ c.target.text ++ ")" ++
            clausesText (clauses.drop (i + 1)) := by
        conv_lhs => rw [hclauses, clausesText_append, clausesText]
        simp only [String.append_assoc]
      simp only [text, before, behind, hc, htext, ih hd, String.append_assoc]

/-- The target of a clause is enclosed in parentheses. -/
theorem exists_before_behind {e d : Expr} {place : List Nat} (hd : e.at? place = some d)
    (hplace : place ≠ []) :
    ∃ front back, e.before place = front ++ "(" ∧ e.behind place = ")" ++ back := by
  induction place generalizing e with
  | nil => exact absurd rfl hplace
  | cons i place ih =>
      obtain ⟨v, pattern, groups, label, clauses, c, rfl, hc, hd⟩ := at?_cons_eq_some_iff.1 hd
      simp only [before, behind, hc]
      cases place with
      | nil =>
          have hbefore : c.target.before [] = "" := by cases c.target <;> rfl
          have hbehind : c.target.behind [] = "" := by cases c.target <;> rfl
          rw [hbefore, hbehind]
          refine ⟨pattern ++ String.join (groups.map groupText) ++ "=" ++ label ++
            clausesText (clauses.take i) ++ " " ++ c.operator ++ " ", _, ?_, rfl⟩
          simp only [String.append_assoc]
          rfl
      | cons j place =>
          obtain ⟨front, back, hbefore, hbehind⟩ := ih hd (List.cons_ne_nil _ _)
          rw [hbefore, hbehind]
          exact ⟨_, _, (String.append_assoc ..).symm,
            by rw [String.append_assoc, String.append_assoc]⟩

/-- If everything is balanced, the parentheses around a target are partners. -/
theorem exists_partner? {e d : Expr} {place : List Nat} (h : e.BalancedTexts)
    (hd : e.at? place = some d) (hplace : place ≠ []) :
    ∃ front back, e.before place = front ++ "(" ∧ e.behind place = ")" ++ back ∧
      e.text = front ++ "(" ++ d.text ++ ")" ++ back ∧
      partner? e.text.toList front.length = some (front.length + 1 + d.text.length) := by
  obtain ⟨front, back, hbefore, hbehind⟩ := exists_before_behind hd hplace
  have htext : e.text = front ++ "(" ++ d.text ++ ")" ++ back := by
    rw [text_eq hd, hbefore, hbehind]
    simp only [String.append_assoc]
  have hinner : Balanced d.text.toList := balanced_text d (h.of_at? hd)
  refine ⟨front, back, hbefore, hbehind, htext, partner?_eq_some_iff.2 ?_⟩
  refine ⟨front.toList, d.text.toList, back.toList, ?_, String.length_toList, ?_, hinner⟩
  · simp [htext]
  · rw [String.length_toList]

end Expr

/-! ## Compiled queries -/

/-- The texts that a graph holds are balanced. -/
structure Graph.BalancedTexts (g : Graph) : Prop where
  pattern : ∀ entry ∈ g.nodes.entries, Balanced entry.2.pattern.toList
  label : ∀ entry ∈ g.nodes.entries, Balanced entry.2.label.toList
  groups : ∀ entry ∈ g.nodes.entries, ∀ group ∈ entry.2.namedGroups, Balanced group.2.toList
  via : ∀ entry ∈ g.relations.entries, Balanced entry.2.descriptor.via.toList

/-- Only digits are added to the stem of a generated label. -/
theorem LabelTable.balanced_name {g : Graph} (hg : g.BalancedTexts) {stem : String}
    (hstem : Balanced stem.toList) {id : NodeId} {name : String}
    (h : (assign g stem).name? id = some name) : Balanced name.toList := by
  obtain ⟨l, hl, rfl⟩ := Option.map_eq_some_iff.1 h
  obtain ⟨node, hmem, hfits⟩ := fits_of_mem_label (OrderedMap.get?_eq_some_iff.1 hl)
  cases hfits with
  | own hown => exact hg.label _ hmem
  | generated hown hstart hfree =>
      rw [generatedName, String.toList_append]
      exact hstem.append (balanced_toString _)

namespace Query

variable {g : Graph} {groupLabels : Bool} {start : NodeId} {seen : Seen} {e : Expr} {stem : String}

theorem balanced_shownGroups [Pattern.Dialect] (hg : g.BalancedTexts) {id : NodeId} {node : Node}
    (hn : g.nodes.get? id = some node) :
    ∀ group ∈ shownGroups groupLabels node, Balanced group.2.toList := by
  intro group hgroup
  unfold shownGroups at hgroup
  split at hgroup
  · exact hg.groups _ (OrderedMap.get?_eq_some_iff.1 hn) group (List.mem_of_mem_filter hgroup)
  · exact absurd hgroup List.not_mem_nil

/-- What is balanced in a graph nests in the expression. -/
theorem Visits.balancedTexts [Pattern.Dialect] (hg : g.WellFormed) (htexts : g.BalancedTexts)
    (hstem : Balanced stem.toList) (h : Visits g (.assign g stem) groupLabels start {} e seen) :
    e.BalancedTexts := by
  intro place d hd
  have hlabel := LabelTable.balanced_name htexts hstem (h.name?_node hg hd)
  cases d with
  | backRef v name => exact hlabel
  | define u pattern groups label clauses =>
      obtain ⟨node, hn, rfl, rfl⟩ := h.define_eq hg hd
      have hpattern := htexts.pattern _ (OrderedMap.get?_eq_some_iff.1 hn)
      refine ⟨hpattern, balanced_shownGroups htexts hn, hlabel, fun c hc => ?_⟩
      have hrenders := ((h.renders hg).clauses _ _ _ _ _ _ hd).1 c hc
      obtain ⟨relation, dir, hget, hoperator, -⟩ := hrenders.exists_direction
      rw [hoperator]
      exact Relation.Descriptor.balanced_operator
        (htexts.via _ (OrderedMap.get?_eq_some_iff.1 hget)) dir

/-- **Parentheses nest.** If the texts of a graph and the stem of generated labels are balanced, so
is a compiled query; and the two parentheses around the target of a clause are partners with nothing
but the text of the target between them. -/
theorem balanced_of_compileFrom [Pattern.Dialect] {config : Config} {c : Compiled}
    (hg : g.Buildable) (htexts : g.BalancedTexts) (hstem : Balanced config.labelStem.toList)
    (hc : g.compileFrom start config = .ok c) :
    Balanced c.text.toList ∧ ∃ e, c.expr = some e ∧
      ∀ place d, e.at? place = some d → place ≠ [] → ∃ front back,
        e.before place = front ++ "(" ∧ e.behind place = ")" ++ back ∧
        c.text = front ++ "(" ++ d.text ++ ")" ++ back ∧
        partner? c.text.toList front.length = some (front.length + 1 + d.text.length) := by
  obtain ⟨e, seen, he, hvisits⟩ := visits_of_compileFrom hc
  have hbalanced := hvisits.balancedTexts hg.wellFormed htexts hstem
  rw [text_of_compileFrom hc he]
  exact ⟨e.balanced_text hbalanced, e, he, fun _ _ hd hplace =>
    Expr.exists_partner? hbalanced hd hplace⟩

/-- Parentheses in a pattern, the name of a group, a label and a via pattern. -/
def bracketed : Graph :=
  .replay .empty [.createNode "(a|(b))", .createNode "c()", .createNode "d",
    .editNode ⟨0⟩ (.setGroupLabel 1 "k()"), .editNode ⟨1⟩ (.setLabel "(())"),
    .createRelation ⟨0⟩ ⟨1⟩ { kind := .descendantVia, via := "(v)" },
    .createRelation ⟨2⟩ ⟨1⟩ { kind := .nthToLastChild },
    .createRelation ⟨2⟩ ⟨0⟩ { kind := .sibling }]

theorem buildable_bracketed : bracketed.Buildable := ⟨_, rfl⟩

/-- The last node of the expression, in parentheses inside of parentheses. -/
def innermost : Expr := .define ⟨2⟩ "d" [] "s()1" [⟨⟨2⟩, "$", .backRef ⟨0⟩ "s()0"⟩]

theorem balanced_bracketed : ∃ c, bracketed.compileFrom ⟨0⟩ { labelStem := "s()" } = .ok c ∧
    c.text = "(a|(b))#2%k()=s()0 >+((v)) (c()=(()) <- (d=s()1 $ (=s()0)))" ∧
    Balanced c.text.toList ∧ partner? c.text.toList 40 = some 57 := by
  obtain ⟨c, hc, hexpr, htext⟩ : ∃ c, bracketed.compileFrom ⟨0⟩ { labelStem := "s()" } = .ok c ∧
      c.expr = some (.define ⟨0⟩ "(a|(b))" [(1, "k()")] "s()0"
        [⟨⟨0⟩, ">+((v))", .define ⟨1⟩ "c()" [] "(())" [⟨⟨1⟩, "<-", innermost⟩]⟩]) ∧
      c.text = "(a|(b))#2%k()=s()0 >+((v)) (c()=(()) <- (d=s()1 $ (=s()0)))" :=
    ⟨_, rfl, rfl, by decide +kernel⟩
  have htexts : bracketed.BalancedTexts := ⟨by decide, by decide, by decide, by decide⟩
  obtain ⟨hbalanced, e, he, htargets⟩ :=
    balanced_of_compileFrom buildable_bracketed htexts (by decide) hc
  obtain rfl := Option.some.inj (hexpr.symm.trans he)
  obtain ⟨front, back, hbefore, -, -, hpartner⟩ := htargets [0, 0] innermost rfl (by decide)
  have hfront : "(a|(b))#2%k()=s()0 >+((v)) (c()=(()) <- " ++ "(" = front ++ "(" := by
    rw [← hbefore]
    decide +kernel
  obtain rfl := (String.append_left_inj "(").1 hfront
  exact ⟨c, hc, htext, hbalanced, hpartner⟩

end Query

end TreeQuery
