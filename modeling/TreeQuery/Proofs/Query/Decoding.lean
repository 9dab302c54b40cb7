import TreeQuery.Proofs.Query.Expression
import TreeQuery.Proofs.Text.Numeral
import TreeQuery.Proofs.Text.Scan

set_option autoImplicit false

/-! # Expressions can be read back

`Expr.ofText?` reads an expression from a text. It finds the parts by the characters between them: a
pattern with its named groups ends at the first equals sign, a label at a blank or a closing
parenthesis, an operator at a blank. As long as these characters do not stand inside the parts
(`Expr.Readable`), the text of an expression is read as the expression without its handles
(`Expr.ofText?_text`), so expressions with the same text differ in handles only. -/

namespace TreeQuery.Expr

/-! ## Expressions without handles -/

mutual

/-- The expression with all handles blanked out. -/
def bare : Expr → Expr
  | backRef _ label => backRef ⟨0⟩ label
  | define _ pattern groups label clauses => define ⟨0⟩ pattern groups label (bareOf clauses)

/-- Clauses with all handles blanked out. -/
def bareOf : List (Clause Expr) → List (Clause Expr)
  | [] => []
  | ⟨_, operator, target⟩ :: rest => ⟨⟨0⟩, operator, bare target⟩ :: bareOf rest

end

/-! ## Reading -/

/-- A character of a label. -/
def inLabel (c : Char) : Bool := c ≠ ' ' && c ≠ ')'

/-- The named group that stands between two number signs. -/
def readGroup (cs : List Char) : Nat × String :=
  (Nat.ofDigitChars 10 (cs.takeWhile (· ≠ '%')) 0 - 1,
    String.ofList (cs.dropWhile (· ≠ '%')).tail)

/-- The pattern that stands before an equals sign. -/
def readPattern (cs : List Char) : String := String.ofList ((cs.splitOn '#').headD [])

/-- The named groups that stand behind the pattern. -/
def readGroups (cs : List Char) : List (Nat × String) := (cs.splitOn '#').tail.map readGroup

mutual

/-- Read an expression and give what follows it. The first argument bounds the length. -/
def read : Nat → List Char → Option (Expr × List Char)
  | 0, _ => none
  | fuel + 1, cs =>
    let behind := (cs.dropWhile (· ≠ '=')).tail
    let label := String.ofList (behind.takeWhile inLabel)
    let rest := behind.dropWhile inLabel
    match cs.takeWhile (· ≠ '=') with
    | [] => some (.backRef ⟨0⟩ label, rest)
    | front => (readClauses fuel rest).map fun (clauses, rest) =>
      (.define ⟨0⟩ (readPattern front) (readGroups front) label clauses, rest)

/-- Read clauses and give what follows them. -/
def readClauses : Nat → List Char → Option (List (Clause Expr) × List Char)
  | 0, _ => none
  | fuel + 1, ' ' :: cs =>
    match cs.dropWhile (· ≠ ' ') with
    | ' ' :: '(' :: inner =>
      match read fuel inner with
      | some (target, ')' :: behind) => (readClauses fuel behind).map fun (others, rest) =>
        (⟨⟨0⟩, String.ofList (cs.takeWhile (· ≠ ' ')), target⟩ :: others, rest)
      | _ => none
    | _ => none
  | _ + 1, cs => some ([], cs)

end

/-- The expression that a text stands for, without handles. -/
def ofText? (s : String) : Option Expr :=
  match read (s.length + 1) s.toList with
  | some (e, []) => some e
  | _ => none

/-! ## Texts that can be read -/

/-- A text that can be a label. -/
def PlainLabel (s : String) : Prop := ' ' ∉ s.toList ∧ ')' ∉ s.toList

/-- A text that can stand before an equals sign. -/
def PlainName (s : String) : Prop := '#' ∉ s.toList ∧ '=' ∉ s.toList

instance (s : String) : Decidable (PlainLabel s) := inferInstanceAs (Decidable (_ ∧ _))

instance (s : String) : Decidable (PlainName s) := inferInstanceAs (Decidable (_ ∧ _))

/-- The parts of a mention can be told from each other. -/
def Plain : Expr → Prop
  | backRef _ label => PlainLabel label
  | define _ pattern groups label clauses =>
    pattern ≠ "" ∧ PlainName pattern ∧ (∀ g ∈ groups, PlainName g.2) ∧ PlainLabel label ∧
      ∀ c ∈ clauses, ' ' ∉ c.operator.toList

/-- The parts of all mentions can be told from each other. -/
def Readable (e : Expr) : Prop := ∀ place d, e.at? place = some d → d.Plain

theorem Readable.plain {e : Expr} (h : e.Readable) : e.Plain := h [] e rfl

theorem Readable.target {node : NodeId} {pattern label : String} {groups : List (Nat × String)}
    {clauses : List (Clause Expr)} (h : (define node pattern groups label clauses).Readable)
    {c : Clause Expr} (hc : c ∈ clauses) : c.target.Readable := by
  intro place d hd
  obtain ⟨i, hi⟩ := exists_at?_target hc
  exact h ([i] ++ place) d (by rw [at?_append, hi, Option.bind_some, hd])

/-! ## Reading what was written -/

theorem inLabel_of_plainLabel {s : String} (h : PlainLabel s) : ∀ c ∈ s.toList, inLabel c := by
  intro c hc
  have hblank : c ≠ ' ' := fun heq => h.1 (heq ▸ hc)
  have hparen : c ≠ ')' := fun heq => h.2 (heq ▸ hc)
  simp [inLabel, hblank, hparen]

/-- The characters between the number sign of a group and the next one. -/
def groupPart (g : Nat × String) : List Char := (toString (g.1 + 1)).toList ++ '%' :: g.2.toList

theorem not_mem_groupPart {c : Char} (hdigit : c.isDigit = false) (hpercent : c ≠ '%')
    {g : Nat × String} (hname : c ∉ g.2.toList) : c ∉ groupPart g := by
  rw [groupPart, List.mem_append, List.mem_cons, not_or, not_or]
  exact ⟨Text.not_mem_toString hdigit _, hpercent, hname⟩

theorem readGroup_groupPart (g : Nat × String) : readGroup (groupPart g) = g := by
  have hfront := Text.decide_ne_of_not_mem (Text.not_mem_toString (c := '%') (by decide) (g.1 + 1))
  have hrest : ∀ c ∈ ('%' :: g.2.toList).head?, decide (c ≠ '%') = false := by simp
  rw [readGroup, groupPart, Text.takeWhile_append hfront hrest, Text.dropWhile_append hfront hrest,
    List.tail_cons, String.ofList_toList, Text.ofDigitChars_toString, Nat.add_sub_cancel]

theorem toList_groupText (g : Nat × String) : (groupText g).toList = '#' :: groupPart g := by
  simp [groupText, groupPart]

theorem groupText_injective : Function.Injective groupText := by
  intro g g' h
  have hparts := congrArg String.toList h
  rw [toList_groupText, toList_groupText, List.cons_inj_right] at hparts
  rw [← readGroup_groupPart g, hparts, readGroup_groupPart]

/-- What stands before the equals sign of a first mention. -/
def front (pattern : String) (groups : List (Nat × String)) : List Char :=
  ['#'].intercalate (pattern.toList :: groups.map groupPart)

theorem toList_front (pattern : String) (groups : List (Nat × String)) :
    (pattern ++ String.join (groups.map groupText)).toList = front pattern groups := by
  rw [front, Text.intercalate_cons, String.toList_append, String.toList_join, List.flatMap_map,
    List.flatMap_map]
  simp only [toList_groupText]

section Front

variable {pattern : String} {groups : List (Nat × String)}

theorem splitOn_front (hpattern : PlainName pattern) (hgroups : ∀ g ∈ groups, PlainName g.2) :
    (front pattern groups).splitOn '#' = pattern.toList :: groups.map groupPart := by
  refine List.splitOn_intercalate '#' (fun part hpart => ?_) (List.cons_ne_nil _ _)
  rcases List.mem_cons.1 hpart with rfl | hpart
  · exact hpattern.1
  · obtain ⟨g, hg, rfl⟩ := List.mem_map.1 hpart
    exact not_mem_groupPart (by decide) (by decide) (hgroups g hg).1

theorem equals_not_mem_front (hpattern : PlainName pattern)
    (hgroups : ∀ g ∈ groups, PlainName g.2) : '=' ∉ front pattern groups := by
  rw [front, Text.intercalate_cons, List.mem_append, List.mem_flatMap]
  rintro (hmem | ⟨part, hpart, hmem⟩)
  · exact hpattern.2 hmem
  · obtain ⟨g, hg, rfl⟩ := List.mem_map.1 hpart
    refine not_mem_groupPart (by decide) (by decide) (hgroups g hg).2 ?_
    exact (List.mem_cons.1 hmem).resolve_left (by decide)

theorem readPattern_front (hpattern : PlainName pattern) (hgroups : ∀ g ∈ groups, PlainName g.2) :
    readPattern (front pattern groups) = pattern := by
  rw [readPattern, splitOn_front hpattern hgroups, List.headD_cons, String.ofList_toList]

theorem readGroups_front (hpattern : PlainName pattern) (hgroups : ∀ g ∈ groups, PlainName g.2) :
    readGroups (front pattern groups) = groups := by
  rw [readGroups, splitOn_front hpattern hgroups, List.tail_cons, List.map_map]
  exact List.map_id'' readGroup_groupPart groups

theorem front_ne_nil (hpattern : pattern ≠ "") : front pattern groups ≠ [] := by
  rw [front, Text.intercalate_cons]
  simp [hpattern]

end Front

/-! ## The whole text -/

/-- What can follow an expression: nothing, or the closing parenthesis of a clause. -/
def Closes (rest : List Char) : Prop := ∀ c ∈ rest.head?, c = ')'

/-- Clauses begin with a blank. -/
theorem inLabel_of_head?_clausesText (cs : List (Clause Expr)) {rest : List Char}
    (hrest : Closes rest) : ∀ c ∈ ((clausesText cs).toList ++ rest).head?, inLabel c = false := by
  cases cs with
  | nil =>
      intro c hc
      rw [hrest c (by simpa [clausesText] using hc)]
      decide
  | cons clause cs =>
      obtain ⟨relation, operator, target⟩ := clause
      simp [clausesText, inLabel]

theorem length_text_define (node : NodeId) (pattern label : String) (groups : List (Nat × String))
    (clauses : List (Clause Expr)) : (define node pattern groups label clauses).text.length =
      pattern.length + (String.join (groups.map groupText)).length + 1 + label.length +
        (clausesText clauses).length := by
  rw [text]
  simp only [String.length_append]
  rfl

theorem length_clausesText_cons (relation : RelationId) (operator : String) (target : Expr)
    (cs : List (Clause Expr)) : (clausesText (⟨relation, operator, target⟩ :: cs)).length =
      1 + operator.length + 2 + target.text.length + 1 + (clausesText cs).length := by
  rw [clausesText]
  simp only [String.length_append]
  rfl

mutual

theorem read_text : (e : Expr) → e.Readable → (fuel : Nat) → e.text.length < fuel →
    (rest : List Char) → Closes rest → read fuel (e.text.toList ++ rest) = some (e.bare, rest)
  | _, _, 0, hfuel, _, _ => absurd hfuel (Nat.not_lt_zero _)
  | backRef node label, hreadable, fuel + 1, _, rest, hrest => by
      have hlabel := inLabel_of_plainLabel hreadable.plain
      have hstop := inLabel_of_head?_clausesText [] hrest
      simp only [clausesText, String.toList_empty, List.nil_append] at hstop
      simp [text, read, Text.takeWhile_append hlabel hstop, Text.dropWhile_append hlabel hstop,
        bare]
  | define node pattern groups label clauses, hreadable, fuel + 1, hfuel, rest, hrest => by
      obtain ⟨hne, hpattern, hgroups, hlabel, hoperators⟩ := hreadable.plain
      have hfront := Text.decide_ne_of_not_mem (equals_not_mem_front hpattern hgroups)
      have hlabel := inLabel_of_plainLabel hlabel
      have hstop := inLabel_of_head?_clausesText clauses hrest
      have hclauses : readClauses fuel ((clausesText clauses).toList ++ rest) =
          some (bareOf clauses, rest) := by
        refine readClauses_text clauses hoperators (fun c hc => hreadable.target hc) fuel ?_ rest
          hrest
        rw [length_text_define] at hfuel
        omega
      have htext : (define node pattern groups label clauses).text.toList ++ rest =
          front pattern groups ++
            '=' :: (label.toList ++ ((clausesText clauses).toList ++ rest)) := by
        rw [text, ← toList_front]
        simp
      have hequals : ∀ c ∈ ('=' :: (label.toList ++ ((clausesText clauses).toList ++ rest))).head?,
          decide (c ≠ '=') = false := by simp
      rw [htext, read, Text.takeWhile_append hfront hequals, Text.dropWhile_append hfront hequals,
        List.tail_cons, Text.takeWhile_append hlabel hstop, Text.dropWhile_append hlabel hstop]
      split
      · next hnil => exact absurd hnil (front_ne_nil hne)
      · rw [hclauses, readPattern_front hpattern hgroups, readGroups_front hpattern hgroups,
          String.ofList_toList]
        rfl

theorem readClauses_text : (cs : List (Clause Expr)) → (∀ c ∈ cs, ' ' ∉ c.operator.toList) →
    (∀ c ∈ cs, c.target.Readable) → (fuel : Nat) → (clausesText cs).length < fuel →
      (rest : List Char) → Closes rest →
        readClauses fuel ((clausesText cs).toList ++ rest) = some (bareOf cs, rest)
  | _, _, _, 0, hfuel, _, _ => absurd hfuel (Nat.not_lt_zero _)
  | [], _, _, fuel + 1, _, rest, hrest => by
      cases rest with
      | nil => rfl
      | cons c rest =>
          obtain rfl := hrest c rfl
          rfl
  | ⟨relation, operator, target⟩ :: cs, hoperators, htargets, fuel + 1, hfuel, rest, hrest => by
      have hoperator := Text.decide_ne_of_not_mem (hoperators _ (List.mem_cons_self ..))
      rw [length_clausesText_cons] at hfuel
      have htarget : read fuel (target.text.toList ++ ')' :: ((clausesText cs).toList ++ rest)) =
          some (target.bare, ')' :: ((clausesText cs).toList ++ rest)) := by
        have htarget := htargets _ (List.mem_cons_self ..)
        exact read_text target htarget fuel (by omega) _ fun c hc => (Option.some.inj hc).symm
      have hothers : readClauses fuel ((clausesText cs).toList ++ rest) = some (bareOf cs, rest) :=
        readClauses_text cs (fun c hc => hoperators c (List.mem_cons_of_mem _ hc))
          (fun c hc => htargets c (List.mem_cons_of_mem _ hc)) fuel (by omega) rest hrest
      have htext : (clausesText (⟨relation, operator, target⟩ :: cs)).toList ++ rest =
          ' ' :: (operator.toList ++ ' ' :: '(' :: (target.text.toList ++
            ')' :: ((clausesText cs).toList ++ rest))) := by
        simp [clausesText]
      have hblank : ∀ c ∈ (' ' :: '(' :: (target.text.toList ++
          ')' :: ((clausesText cs).toList ++ rest))).head?, decide (c ≠ ' ') = false := by simp
      rw [htext, readClauses, Text.dropWhile_append hoperator hblank,
        Text.takeWhile_append hoperator hblank]
      simp [htarget, hothers, bareOf]

end

/-- **Expressions can be read back.** -/
theorem ofText?_text {e : Expr} (h : e.Readable) : ofText? e.text = some e.bare := by
  have hread := read_text e h (e.text.length + 1) (Nat.lt_succ_self _) [] (by simp [Closes])
  rw [List.append_nil] at hread
  rw [ofText?, hread]

/-- Texts tell expressions apart, but for their handles. -/
theorem bare_eq_of_text_eq {e e' : Expr} (h : e.Readable) (h' : e'.Readable)
    (htext : e.text = e'.text) : e.bare = e'.bare := by
  refine Option.some.inj ?_
  rw [← ofText?_text h, ← ofText?_text h', htext]

end TreeQuery.Expr
