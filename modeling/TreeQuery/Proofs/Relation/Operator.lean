import TreeQuery.Proofs.Text.Numeral
import TreeQuery.Relation.Operator

set_option autoImplicit false

/-! # What an operator says

An operator says of a descriptor its `Face`: the kind, the marks, the direction unless the kind is
the same from both ends, and the arguments that the kind uses. All of this can be read off the text
again (`Face.ofOperator?_operator`), so an operator determines the face that it was written for, and
what the kind does not use never shows (`Descriptor.operator_eq_iff`). -/

namespace TreeQuery.Relation

/-- What an operator says. -/
structure Face where
  kind : Kind
  negative : Bool := false
  optional : Bool := false
  /-- The direction, unless the kind is the same from both ends. -/
  direction : Option Direction
  n : Option ChildIndex := none
  via : Option String := none
  deriving DecidableEq, Repr

/-- What the operator of a descriptor says when it is read in a direction. -/
def Descriptor.face (d : Descriptor) (dir : Direction) : Face where
  kind := d.kind
  negative := d.negative
  optional := d.optional
  direction := if d.kind = .sibling then none else some dir
  n := if d.kind.hasNumberArg then some d.n else none
  via := if d.kind.hasViaArg then some d.via else none

namespace Face

/-! ## Reading operators -/

/-- The child index that some digits stand for. -/
def number? (digits : List Char) : Option ChildIndex :=
  ChildIndex.ofInt? (Nat.ofDigitChars 10 digits 0)

/-- The via pattern in front of the closing parenthesis. -/
def enclosed (cs : List Char) : String := String.ofList cs.dropLast

/-- What a token says that begins with two angles, given what follows them. -/
def ofAngles? (dir : Direction) : List Char → Option Face
  | [] => some { kind := .descendant, direction := dir }
  | [':'] => some { kind := .unaryDescendant, direction := dir }
  | [','] => some { kind := .leftmostDescendant, direction := dir }
  | ['-'] => some { kind := .rightmostDescendant, direction := dir }
  | _ => none

/-- What a token says that begins with an angle, given what follows it. -/
def ofAngle? (dir : Direction) : List Char → Option Face
  | [] => some { kind := .directDescendant, direction := dir }
  | c :: cs =>
    if c.isDigit then
      (number? (c :: cs)).map fun n => { kind := .nthChild, direction := dir, n := some n }
    else match c, cs with
      | ',', [] => some { kind := .nthChild, direction := dir, n := some .first }
      | '-', [] => some { kind := .nthToLastChild, direction := dir, n := some .first }
      | '-', digits =>
        (number? digits).map fun n => { kind := .nthToLastChild, direction := dir, n := some n }
      | ':', [] => some { kind := .onlyDescendant, direction := dir }
      | '+', '(' :: cs => some { kind := .descendantVia, direction := dir, via := enclosed cs }
      | '>', cs | '<', cs => ofAngles? dir cs
      | _, _ => none

/-- What a token says that begins with a dot or a comma, given what follows it. -/
def ofDot? (dir : Direction) : List Char → Option Face
  | [] => some { kind := .immediatelyPrecedes, direction := dir }
  | '+' :: '(' :: cs => some { kind := .precedesVia, direction := dir, via := enclosed cs }
  | [_] => some { kind := .precedes, direction := dir }
  | _ => none

/-- What a token says that begins with a dollar sign, a dot or a comma and more, given what follows
the second of these. -/
def ofSibling? (dir : Direction) : List Char → Option Face
  | [] => some { kind := .immediateLeftSibling, direction := dir }
  | [_] => some { kind := .leftSibling, direction := dir }
  | _ => none

/-- What a token says. -/
def ofToken? : List Char → Option Face
  | '>' :: cs => ofAngle? .forward cs
  | '<' :: cs => ofAngle? .backward cs
  | '.' :: cs => ofDot? .forward cs
  | ',' :: cs => ofDot? .backward cs
  | ['$'] => some { kind := .sibling, direction := none }
  | '$' :: '.' :: cs => ofSibling? .forward cs
  | '$' :: ',' :: cs => ofSibling? .backward cs
  | _ => none

/-- Take a mark off the beginning of an operator, if it is there. -/
def unmark (mark : Char) : List Char → Bool × List Char
  | [] => (false, [])
  | c :: cs => if c = mark then (true, cs) else (false, c :: cs)

/-- What an operator says. -/
def ofOperator? (cs : List Char) : Option Face :=
  let (negative, cs) := unmark '!' cs
  let (optional, cs) := unmark '?' cs
  (ofToken? cs).map fun face => { face with negative, optional }

/-! ## Reading what was written -/

/-- The digits of a number begin with a digit, and are read as the number. -/
theorem exists_digits (n : ChildIndex) : ∃ c cs, (toString n.value).toList = c :: cs ∧
    c.isDigit = true ∧ number? (c :: cs) = some n := by
  obtain ⟨c, cs, hdigits⟩ := List.exists_cons_of_ne_nil (Text.toString_ne_nil n.value)
  have hmem : c ∈ (toString n.value).toList := hdigits ▸ List.mem_cons_self
  refine ⟨c, cs, hdigits, Text.isDigit_of_mem_toString hmem, ?_⟩
  rw [number?, ← hdigits, Text.ofDigitChars_toString, ChildIndex.ofInt?_value]

theorem enclosed_append (via : String) : enclosed (via.toList ++ [')']) = via := by
  rw [enclosed, List.dropLast_concat, String.ofList_toList]

theorem ofToken?_token (d : Descriptor) (dir : Direction) :
    ofToken? (d.token dir).toList =
      some { d.face dir with negative := false, optional := false } := by
  obtain ⟨kind, negative, optional, n, via⟩ := d
  obtain ⟨c, cs, hdigits, hc, hnumber⟩ := exists_digits n
  cases kind with
  | nthChild =>
      by_cases hn : n = .first
      · simp only [Descriptor.token, hn, if_true]
        cases dir <;> rfl
      · have hangle : ofAngle? dir (c :: cs) =
            some { kind := .nthChild, direction := dir, n := some n } := by
          show (if c.isDigit then Option.map _ (number? (c :: cs)) else _) = _
          rw [if_pos hc, hnumber, Option.map_some]
        simp only [Descriptor.token, hn, if_false, String.toList_append, hdigits]
        cases dir <;> exact hangle
  | nthToLastChild =>
      by_cases hn : n = .first
      · simp only [Descriptor.token, hn, if_true]
        cases dir <;> rfl
      · have hangle : ofAngle? dir ('-' :: c :: cs) =
            some { kind := .nthToLastChild, direction := dir, n := some n } := by
          show Option.map _ (number? (c :: cs)) = _
          rw [hnumber, Option.map_some]
        simp only [Descriptor.token, hn, if_false, String.toList_append, hdigits]
        cases dir <;> exact hangle
  | descendantVia =>
      have hangle : ofAngle? dir ('+' :: '(' :: (via.toList ++ [')'])) =
          some { kind := .descendantVia, direction := dir, via := via } := by
        show some (Face.mk .descendantVia false false dir none (enclosed _)) = _
        rw [enclosed_append]
      simp only [Descriptor.token, String.toList_append]
      cases dir <;> exact hangle
  | precedesVia =>
      have hdot : ofDot? dir ('+' :: '(' :: (via.toList ++ [')'])) =
          some { kind := .precedesVia, direction := dir, via := via } := by
        show some (Face.mk .precedesVia false false dir none (enclosed _)) = _
        rw [enclosed_append]
      simp only [Descriptor.token, String.toList_append]
      cases dir <;> exact hdot
  | _ =>
      simp only [Descriptor.token]
      cases dir <;> rfl

theorem unmark_cons_self (mark : Char) (cs : List Char) : unmark mark (mark :: cs) = (true, cs) :=
  if_pos rfl

theorem unmark_cons_of_ne {mark c : Char} (h : c ≠ mark) (cs : List Char) :
    unmark mark (c :: cs) = (false, c :: cs) :=
  if_neg h

/-- No token begins with a mark. -/
theorem unmark_of_ofToken? {cs : List Char} {face : Face} (h : ofToken? cs = some face) :
    unmark '!' cs = (false, cs) ∧ unmark '?' cs = (false, cs) := by
  cases cs with
  | nil => exact ⟨rfl, rfl⟩
  | cons c cs =>
      have hnegative : c ≠ '!' := by
        rintro rfl
        exact absurd h (by simp [ofToken?])
      have hoptional : c ≠ '?' := by
        rintro rfl
        exact absurd h (by simp [ofToken?])
      exact ⟨unmark_cons_of_ne hnegative cs, unmark_cons_of_ne hoptional cs⟩

/-- **What an operator says can be read off it.** -/
theorem ofOperator?_operator (d : Descriptor) (dir : Direction) :
    ofOperator? (d.operator dir).toList = some (d.face dir) := by
  have htoken := ofToken?_token d dir
  obtain ⟨hnegative, hoptional⟩ := unmark_of_ofToken? htoken
  have hmarks : ofOperator? (d.operator dir).toList =
      (ofToken? (d.token dir).toList).map fun face =>
        { face with negative := d.negative, optional := d.optional } := by
    rw [ofOperator?, Descriptor.operator]
    cases hn : d.negative <;> cases ho : d.optional <;>
      simp [unmark_cons_self, unmark_cons_of_ne, hnegative, hoptional]
  rw [hmarks, htoken]
  rfl

end Face

namespace Descriptor

variable {d d' : Descriptor} {dir dir' : Direction}

/-- Operators tell apart what they say. -/
theorem face_eq_of_operator_eq (h : d.operator dir = d'.operator dir') :
    d.face dir = d'.face dir' := by
  refine Option.some.inj ?_
  rw [← Face.ofOperator?_operator, ← Face.ofOperator?_operator, h]

/-! ## Descriptors that mean the same -/

/-- Two descriptors are the same up to arguments that their kind does not use. -/
structure Agrees (d d' : Descriptor) : Prop where
  kind : d.kind = d'.kind
  negative : d.negative = d'.negative
  optional : d.optional = d'.optional
  n : d.kind.hasNumberArg = true → d.n = d'.n
  via : d.kind.hasViaArg = true → d.via = d'.via

theorem agrees_of_face_eq (h : d.face dir = d'.face dir') : d.Agrees d' := by
  simp only [face, Face.mk.injEq] at h
  obtain ⟨hkind, hnegative, hoptional, -, hn, hvia⟩ := h
  refine ⟨hkind, hnegative, hoptional, fun harg => ?_, fun harg => ?_⟩
  · rw [if_pos harg, if_pos (hkind ▸ harg)] at hn
    exact Option.some.inj hn
  · rw [if_pos harg, if_pos (hkind ▸ harg)] at hvia
    exact Option.some.inj hvia

/-- The direction shows unless the kind is the same from both ends. -/
theorem direction_eq_of_face_eq (h : d.face dir = d'.face dir') :
    dir = dir' ∨ d.kind = .sibling := by
  simp only [face, Face.mk.injEq] at h
  obtain ⟨hkind, -, -, hdirection, -⟩ := h
  by_cases hsibling : d.kind = .sibling
  · exact .inr hsibling
  · rw [if_neg hsibling, if_neg (hkind ▸ hsibling)] at hdirection
    exact .inl (Option.some.inj hdirection)

theorem Agrees.refl (d : Descriptor) : d.Agrees d :=
  ⟨rfl, rfl, rfl, fun _ => rfl, fun _ => rfl⟩

theorem agrees_withN_iff {n : ChildIndex} :
    { d with n }.Agrees d ↔ d.kind.hasNumberArg = true → n = d.n :=
  ⟨fun h => h.n, fun h => ⟨rfl, rfl, rfl, h, fun _ => rfl⟩⟩

theorem agrees_withVia_iff {via : String} :
    { d with via }.Agrees d ↔ d.kind.hasViaArg = true → via = d.via :=
  ⟨fun h => h.via, fun h => ⟨rfl, rfl, rfl, fun _ => rfl, h⟩⟩

/-! ## What does not show -/

/-- A token is made of the kind and of the arguments that the kind uses. -/
theorem Agrees.token_eq (h : d.Agrees d') (dir : Direction) : d.token dir = d'.token dir := by
  rw [token, token, ← h.kind]
  cases hkind : d.kind with
  | nthChild | nthToLastChild =>
      have hn : d.n = d'.n := h.n (by rw [hkind]; rfl)
      simp only [hn]
  | descendantVia | precedesVia =>
      have hvia : d.via = d'.via := h.via (by rw [hkind]; rfl)
      simp only [hvia]
  | _ => rfl

theorem Agrees.operator_eq (h : d.Agrees d') (dir : Direction) :
    d.operator dir = d'.operator dir := by
  rw [operator, operator, h.negative, h.optional, h.token_eq]

/-- From both ends siblings look the same. -/
theorem operator_of_sibling (h : d.kind = .sibling) (dir dir' : Direction) :
    d.operator dir = d.operator dir' := by
  rw [operator, operator, token, token, h]

theorem operator_eq_iff : d.operator dir = d'.operator dir' ↔
    d.Agrees d' ∧ (dir = dir' ∨ d.kind = .sibling) := by
  constructor
  · intro h
    have hface := face_eq_of_operator_eq h
    exact ⟨agrees_of_face_eq hface, direction_eq_of_face_eq hface⟩
  · rintro ⟨hagrees, rfl | hsibling⟩
    · exact hagrees.operator_eq dir
    · exact (operator_of_sibling hsibling dir dir').trans (hagrees.operator_eq dir')

/-- **What operators tell apart.** Two operators are the same exactly if the descriptors are the
same up to arguments that their kind does not use and the directions are the same, unless the kind
is the same from both ends. So turning a relation around shows except between siblings, and an
argument shows exactly if the kind uses it. -/
theorem operator_tells_apart (d d' : Descriptor) (dir dir' : Direction) :
    (d.operator dir = d'.operator dir' ↔ d.Agrees d' ∧ (dir = dir' ∨ d.kind = .sibling)) ∧
    (d.operator .forward = d.operator .backward ↔ d.kind = .sibling) ∧
    ((∀ n, { d with n }.operator dir = d.operator dir) ↔ d.kind.hasNumberArg = false) ∧
    ((∀ via, { d with via }.operator dir = d.operator dir) ↔ d.kind.hasViaArg = false) := by
  refine ⟨operator_eq_iff, ?_, ?_, ?_⟩
  · simp [operator_eq_iff, Agrees.refl]
  · simp only [operator_eq_iff, agrees_withN_iff, true_or, and_true]
    refine ⟨fun h => ?_, fun h n harg => absurd harg (by simp [h])⟩
    refine Bool.eq_false_iff.2 fun harg => ?_
    have hsecond : ChildIndex.first = ⟨2, by decide, by decide⟩ :=
      (h _ harg).trans (h _ harg).symm
    exact absurd hsecond (by decide)
  · simp only [operator_eq_iff, agrees_withVia_iff, true_or, and_true]
    refine ⟨fun h => ?_, fun h via harg => absurd harg (by simp [h])⟩
    refine Bool.eq_false_iff.2 fun harg => ?_
    have hempty : matchAny = "" := (h _ harg).trans (h _ harg).symm
    exact absurd hempty (by decide)

/-! ## Characters of operators -/

/-- The characters of operators, but for numbers and via patterns. -/
def symbols : List Char := ['!', '?', '<', '>', '.', ',', ':', '+', '-', '$', '(', ')']

/-- Where a character of an operator comes from. -/
def Spells (d : Descriptor) (c : Char) : Prop :=
  c ∈ symbols ∨ c.isDigit = true ∨ (d.kind.hasViaArg = true ∧ c ∈ d.via.toList)

theorem mem_symbols {s : String} {c : Char} (hs : s.toList.all (· ∈ symbols)) (hc : c ∈ s.toList) :
    c ∈ symbols :=
  of_decide_eq_true (List.all_eq_true.1 hs c hc)

theorem spells_token (d : Descriptor) (dir : Direction) :
    ∀ c ∈ (d.token dir).toList, d.Spells c := by
  intro c hc
  obtain ⟨kind, negative, optional, n, via⟩ := d
  have hsymbol {s : String} (hs : s.toList.all (· ∈ symbols)) (hmem : c ∈ s.toList) :
      Spells ⟨kind, negative, optional, n, via⟩ c := .inl (mem_symbols hs hmem)
  cases kind with
  | nthChild | nthToLastChild =>
      simp only [token, String.toList_append, List.mem_append] at hc
      rcases hc with hc | hc
      · refine hsymbol ?_ hc
        cases dir <;> decide
      · split at hc
        · exact hsymbol (by decide) hc
        · exact .inr (.inl (Text.isDigit_of_mem_toString hc))
  | descendantVia | precedesVia =>
      simp only [token, String.toList_append, List.mem_append] at hc
      rcases hc with ((hc | hc) | hc) | hc
      · refine hsymbol ?_ hc
        cases dir <;> decide
      · exact hsymbol (by decide) hc
      · exact .inr (.inr ⟨rfl, hc⟩)
      · exact hsymbol (by decide) hc
  | _ =>
      simp only [token] at hc
      refine hsymbol ?_ hc
      cases dir <;> decide

theorem spells_operator (d : Descriptor) (dir : Direction) :
    ∀ c ∈ (d.operator dir).toList, d.Spells c := by
  intro c hc
  have hmark {set : Bool} {s : String} (hs : s.toList.all (· ∈ symbols))
      (hmem : c ∈ (if set then s else "").toList) : d.Spells c := by
    split at hmem
    · exact .inl (mem_symbols hs hmem)
    · exact absurd hmem List.not_mem_nil
  simp only [operator, String.toList_append, List.mem_append] at hc
  rcases hc with (hc | hc) | hc
  · exact hmark (by decide) hc
  · exact hmark (by decide) hc
  · exact spells_token d dir c hc

/-- What is neither a symbol nor a digit is in an operator only if it comes from the via pattern. -/
theorem not_mem_operator {c : Char} (hsymbol : c ∉ symbols) (hdigit : c.isDigit = false)
    (hvia : d.kind.hasViaArg = true → c ∉ d.via.toList) (dir : Direction) :
    c ∉ (d.operator dir).toList := by
  intro hc
  rcases spells_operator d dir c hc with h | h | ⟨harg, h⟩
  · exact hsymbol h
  · exact absurd (hdigit.symm.trans h) (by decide)
  · exact hvia harg h

end Descriptor

end TreeQuery.Relation
