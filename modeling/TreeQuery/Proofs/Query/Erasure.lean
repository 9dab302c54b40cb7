import TreeQuery.Proofs.Query.Decoding

set_option autoImplicit false

/-! # What a text does not show

A text shows everything of an expression but the handles. It does not show them: an expression and
the same without its handles have one text (`text_bare`). And nothing else is lost: an expression
is determined by what is left without the handles and by the handles in pre-order
(`eq_of_bare_eq`). So two expressions that can be read have the same text exactly if they differ in
their handles only, and reading the text gives what they have in common
(`text_determines_bare`). -/

namespace TreeQuery.Expr

/-! ## The handles of an expression -/

mutual

/-- The nodes of all mentions, also of those that refer back. -/
def mentioned : Expr → List NodeId
  | backRef node _ => [node]
  | define node _ _ _ clauses => node :: mentionedOf clauses

/-- The nodes of all mentions in the targets of clauses. -/
def mentionedOf : List (Clause Expr) → List NodeId
  | [] => []
  | ⟨_, _, target⟩ :: rest => mentioned target ++ mentionedOf rest

end

mutual

/-- The handles come back: what is left of two expressions without them agrees, and the lists of the
handles, which something else may follow, agree. -/
theorem eq_of_bare_eq_append (e e' : Expr) {vs vs' : List NodeId} {rs rs' : List RelationId}
    (hbare : e.bare = e'.bare) (hnodes : e.mentioned ++ vs = e'.mentioned ++ vs')
    (hrelations : e.relations ++ rs = e'.relations ++ rs') : e = e' ∧ vs = vs' ∧ rs = rs' := by
  cases e with
  | backRef v label =>
      cases e' with
      | backRef v' label' =>
          simp only [bare, backRef.injEq, true_and] at hbare
          simp only [mentioned, List.cons_append, List.nil_append, List.cons.injEq] at hnodes
          simp only [relations, List.nil_append] at hrelations
          obtain ⟨rfl, rfl⟩ := hnodes
          rw [hbare]
          exact ⟨rfl, rfl, hrelations⟩
      | define v' pattern' groups' label' clauses' => simp [bare] at hbare
  | define v pattern groups label clauses =>
      cases e' with
      | backRef v' label' => simp [bare] at hbare
      | define v' pattern' groups' label' clauses' =>
          simp only [bare, define.injEq, true_and] at hbare
          simp only [mentioned, List.cons_append, List.cons.injEq] at hnodes
          obtain ⟨rfl, rfl, rfl, hclauses⟩ := hbare
          obtain ⟨rfl, hnodes⟩ := hnodes
          obtain ⟨rfl, hvs, hrs⟩ :=
            eq_of_bareOf_eq_append clauses clauses' hclauses hnodes hrelations
          exact ⟨rfl, hvs, hrs⟩

theorem eq_of_bareOf_eq_append (cs cs' : List (Clause Expr)) {vs vs' : List NodeId}
    {rs rs' : List RelationId} (hbare : bareOf cs = bareOf cs')
    (hnodes : mentionedOf cs ++ vs = mentionedOf cs' ++ vs')
    (hrelations : relationsOf cs ++ rs = relationsOf cs' ++ rs') :
    cs = cs' ∧ vs = vs' ∧ rs = rs' := by
  match cs, cs' with
  | [], [] => exact ⟨rfl, hnodes, hrelations⟩
  | [], ⟨_, _, _⟩ :: _ => simp [bareOf] at hbare
  | ⟨_, _, _⟩ :: _, [] => simp [bareOf] at hbare
  | ⟨r, operator, target⟩ :: rest, ⟨r', operator', target'⟩ :: rest' =>
      simp only [bareOf, List.cons.injEq, Clause.mk.injEq, true_and] at hbare
      simp only [mentionedOf, List.append_assoc] at hnodes
      simp only [relationsOf, List.cons_append, List.append_assoc, List.cons.injEq] at hrelations
      obtain ⟨⟨rfl, htarget⟩, hrest⟩ := hbare
      obtain ⟨rfl, hrelations⟩ := hrelations
      -- The target takes its handles off the two lists, and the other clauses take what follows.
      obtain ⟨rfl, hnodes, hrelations⟩ :=
        eq_of_bare_eq_append target target' htarget hnodes hrelations
      obtain ⟨rfl, hvs, hrs⟩ := eq_of_bareOf_eq_append rest rest' hrest hnodes hrelations
      exact ⟨rfl, hvs, hrs⟩

end

/-- Blanking handles out loses the handles only. -/
theorem eq_of_bare_eq {e e' : Expr} (hbare : e.bare = e'.bare)
    (hnodes : e.mentioned = e'.mentioned) (hrelations : e.relations = e'.relations) : e = e' := by
  have hnodes : e.mentioned ++ [] = e'.mentioned ++ [] := by rw [hnodes]
  have hrelations : e.relations ++ [] = e'.relations ++ [] := by rw [hrelations]
  exact (eq_of_bare_eq_append e e' hbare hnodes hrelations).1

/-! ## Texts -/

mutual

/-- Handles are not written. -/
theorem text_bare (e : Expr) : e.bare.text = e.text := by
  cases e with
  | backRef v label => rfl
  | define v pattern groups label clauses => rw [bare, text, text, clausesText_bareOf clauses]

theorem clausesText_bareOf (cs : List (Clause Expr)) :
    clausesText (bareOf cs) = clausesText cs := by
  match cs with
  | [] => rfl
  | ⟨r, operator, target⟩ :: rest =>
      rw [bareOf, clausesText, clausesText, text_bare target, clausesText_bareOf rest]

end

/-! ## Readable expressions, part by part -/

theorem readable_backRef {v : NodeId} {label : String} (h : PlainLabel label) :
    (backRef v label).Readable := by
  intro place d hd
  cases place with
  | nil =>
      obtain rfl : backRef v label = d := Option.some.inj hd
      exact h
  | cons i place => simp [at?] at hd

theorem readable_define {v : NodeId} {pattern label : String} {groups : List (Nat × String)}
    {clauses : List (Clause Expr)} (h : (define v pattern groups label clauses).Plain)
    (htargets : ∀ c ∈ clauses, c.target.Readable) :
    (define v pattern groups label clauses).Readable := by
  intro place d hd
  cases place with
  | nil =>
      obtain rfl : define v pattern groups label clauses = d := Option.some.inj hd
      exact h
  | cons i place =>
      obtain ⟨_, _, _, _, _, c, heq, hc, hd⟩ := at?_cons_eq_some_iff.1 hd
      obtain ⟨-, -, -, -, rfl⟩ := define.inj heq
      exact htargets c (List.mem_of_getElem? hc) place d hd

/-- **Texts can be decoded.** Reading the text of an expression that can be read gives the
expression without its handles. Another one that can be read has the same text exactly if it is the
same without its handles, and it is the same altogether if the handles are the same, too. -/
theorem text_determines_bare {e : Expr} (h : e.Readable) :
    ofText? e.text = some e.bare ∧ ∀ e' : Expr, e'.Readable →
      (e'.text = e.text ↔ e'.bare = e.bare) ∧
      (e'.text = e.text → e'.mentioned = e.mentioned → e'.relations = e.relations → e' = e) := by
  refine ⟨ofText?_text h, fun e' h' => ⟨⟨bare_eq_of_text_eq h' h, ?_⟩, ?_⟩⟩
  · intro hbare
    rw [← text_bare e', hbare, text_bare e]
  · intro htext hnodes hrelations
    exact eq_of_bare_eq (bare_eq_of_text_eq h' h htext) hnodes hrelations

/-- A pattern with parentheses and blanks, the greatest group, an empty label and one with an open
parenthesis, an empty operator and one that looks like the beginning of a clause. -/
def gnarled (v w : NodeId) (r : RelationId) : Expr :=
  .define v "(a b) c" [(0, "x) y"), (18446744073709551614, "")] ""
    [⟨r, ">+((", .define w ")" [] "l(" [⟨r, "", .backRef w ""⟩]⟩, ⟨⟨1⟩, "=(", .backRef v "l("⟩]

theorem readable_gnarled (v w : NodeId) (r : RelationId) : (gnarled v w r).Readable := by
  refine readable_define ⟨by decide, by decide, by decide, by decide, by simp⟩ fun c hc => ?_
  simp only [List.mem_cons, List.not_mem_nil, or_false] at hc
  rcases hc with rfl | rfl
  · refine readable_define ⟨by decide, by decide, by decide, by decide, by simp⟩ fun c hc => ?_
    obtain rfl := List.mem_singleton.1 hc
    exact readable_backRef (by decide)
  · exact readable_backRef (by decide)

theorem text_determines_bare_gnarled :
    ofText? "(a b) c#1%x) y#18446744073709551615%= >+(( ()=l(  (=)) =( (=l()" =
      some (gnarled ⟨7⟩ ⟨7⟩ ⟨3⟩).bare ∧
    (gnarled ⟨8⟩ ⟨9⟩ ⟨4⟩).bare = (gnarled ⟨7⟩ ⟨7⟩ ⟨3⟩).bare ∧
    (gnarled ⟨8⟩ ⟨9⟩ ⟨4⟩).mentioned ≠ (gnarled ⟨7⟩ ⟨7⟩ ⟨3⟩).mentioned := by
  have htext : (gnarled ⟨7⟩ ⟨7⟩ ⟨3⟩).text =
      "(a b) c#1%x) y#18446744073709551615%= >+(( ()=l(  (=)) =( (=l()" := by decide +kernel
  obtain ⟨hread, hothers⟩ := text_determines_bare (readable_gnarled ⟨7⟩ ⟨7⟩ ⟨3⟩)
  obtain ⟨hsame, -⟩ := hothers _ (readable_gnarled ⟨8⟩ ⟨9⟩ ⟨4⟩)
  rw [htext] at hread
  exact ⟨hread, hsame.1 (by decide +kernel), by decide⟩

end TreeQuery.Expr
