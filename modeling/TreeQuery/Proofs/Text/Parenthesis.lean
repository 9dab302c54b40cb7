import TreeQuery.Proofs.Text.Numeral

set_option autoImplicit false

/-! # Balanced texts

A text is balanced if it has as many open as closing parentheses and no beginning of it has more
closing ones. Read from the left, it goes back to the depth at which it began and never above that
(`balanced_iff_depth?`); so balanced texts can be put one behind another and enclosed. In a text the
partner of an open parenthesis is the one that closes it: what stands between the two is balanced,
and this is true of no other closing parenthesis (`partner?_eq_some_iff`). -/

namespace TreeQuery.Text

/-- As many open as closing parentheses, and never more closing than open ones from the left. -/
def Balanced (cs : List Char) : Prop :=
  cs.count '(' = cs.count ')' ∧ ∀ front, front <+: cs → front.count ')' ≤ front.count '('

/-! ## Depth -/

/-- The depth behind a character, given the one before it; nothing closes at depth zero. -/
def deepen (d : Nat) (c : Char) : Option Nat :=
  if c = '(' then some (d + 1)
  else if c = ')' then (if d = 0 then none else some (d - 1))
  else some d

/-- The depth behind a text, given the one before it. -/
def depth? (d : Nat) (cs : List Char) : Option Nat := cs.foldlM deepen d

@[simp] theorem depth?_nil (d : Nat) : depth? d [] = some d := rfl

theorem depth?_cons (d : Nat) (c : Char) (cs : List Char) :
    depth? d (c :: cs) = (deepen d c).bind (depth? · cs) := List.foldlM_cons

theorem depth?_append (d : Nat) (cs cs' : List Char) :
    depth? d (cs ++ cs') = (depth? d cs).bind (depth? · cs') := List.foldlM_append

@[simp] theorem depth?_cons_open (d : Nat) (cs : List Char) :
    depth? d ('(' :: cs) = depth? (d + 1) cs := rfl

@[simp] theorem depth?_cons_close_zero (cs : List Char) : depth? 0 (')' :: cs) = none := rfl

@[simp] theorem depth?_cons_close_succ (d : Nat) (cs : List Char) :
    depth? (d + 1) (')' :: cs) = depth? d cs := rfl

theorem depth?_cons_of_ne {c : Char} (ho : c ≠ '(') (hc : c ≠ ')') (d : Nat) (cs : List Char) :
    depth? d (c :: cs) = depth? d cs := by
  rw [depth?_cons, deepen, if_neg ho, if_neg hc]
  rfl

/-- What holds of the empty text holds of all beginnings of a text if it holds of those that begin
with its first character. -/
theorem forall_begins_cons_iff {P : List Char → Prop} (hnil : P []) {c : Char} {cs : List Char} :
    (∀ front, front <+: c :: cs → P front) ↔ ∀ front, front <+: cs → P (c :: front) := by
  simp only [List.prefix_cons_iff]
  constructor
  · exact fun h front hbegins => h _ (.inr ⟨front, rfl, hbegins⟩)
  · rintro h front (rfl | ⟨front, rfl, hbegins⟩)
    · exact hnil
    · exact h front hbegins

/-- The depth counts the parentheses that are open, and it is never below zero. -/
theorem depth?_eq_some_iff {d d' : Nat} {cs : List Char} : depth? d cs = some d' ↔
    d + cs.count '(' = d' + cs.count ')' ∧
      ∀ front, front <+: cs → front.count ')' ≤ d + front.count '(' := by
  induction cs generalizing d with
  | nil => simp
  | cons c cs ih =>
      rw [forall_begins_cons_iff (Nat.zero_le _)]
      by_cases ho : c = '('
      · subst ho
        rw [depth?_cons_open, ih]
        simp [Nat.add_assoc, Nat.add_comm 1]
      · by_cases hc : c = ')'
        · subst hc
          cases d with
          | zero =>
              rw [depth?_cons_close_zero]
              simp only [reduceCtorEq, false_iff, not_and]
              intro _ h
              exact absurd (h [] List.nil_prefix) (by simp)
          | succ d =>
              rw [depth?_cons_close_succ, ih]
              simp [Nat.add_right_comm d 1, ← Nat.add_assoc]
        · rw [depth?_cons_of_ne ho hc, ih]
          simp [ho, hc]

theorem balanced_iff_depth? {cs : List Char} : Balanced cs ↔ depth? 0 cs = some 0 := by
  simp [depth?_eq_some_iff, Balanced]

instance (cs : List Char) : Decidable (Balanced cs) := decidable_of_iff' _ balanced_iff_depth?

/-- A text that goes back to its depth can stand deeper. -/
theorem depth?_add {d d' : Nat} {cs : List Char} (h : depth? d cs = some d') (k : Nat) :
    depth? (d + k) cs = some (d' + k) := by
  rw [depth?_eq_some_iff] at h ⊢
  obtain ⟨hcount, hfront⟩ := h
  refine ⟨by omega, fun front hbegins => ?_⟩
  have := hfront front hbegins
  omega

theorem Balanced.depth?_eq {cs : List Char} (h : Balanced cs) (d : Nat) : depth? d cs = some d := by
  simpa using depth?_add (balanced_iff_depth?.1 h) d

/-! ## Putting balanced texts together -/

theorem balanced_nil : Balanced [] := balanced_iff_depth?.2 rfl

theorem Balanced.append {cs cs' : List Char} (h : Balanced cs) (h' : Balanced cs') :
    Balanced (cs ++ cs') := by
  rw [balanced_iff_depth?, depth?_append, h.depth?_eq, Option.bind_some, h'.depth?_eq]

theorem Balanced.enclose {cs : List Char} (h : Balanced cs) : Balanced ('(' :: (cs ++ [')'])) := by
  rw [balanced_iff_depth?, depth?_cons_open, depth?_append, h.depth?_eq]
  rfl

/-- A text without parentheses is balanced. -/
theorem balanced_of_not_mem {cs : List Char} (ho : '(' ∉ cs) (hc : ')' ∉ cs) : Balanced cs := by
  refine ⟨by rw [List.count_eq_zero.2 ho, List.count_eq_zero.2 hc], fun front hbegins => ?_⟩
  rw [List.count_eq_zero.2 fun hmem => hc (hbegins.subset hmem)]
  exact Nat.zero_le _

theorem balanced_toString (n : Nat) : Balanced (toString n).toList :=
  balanced_of_not_mem (not_mem_toString (by decide) n) (not_mem_toString (by decide) n)

/-! ## Partners -/

/-- The number of characters in front of the parenthesis that closes what was open before the text
began, given how many others are open. -/
def closing? : Nat → List Char → Option Nat
  | _, [] => none
  | d, c :: cs =>
    match deepen d c with
    | none => some 0
    | some d => (closing? d cs).map (· + 1)

/-- The place of the parenthesis that closes the one that is open at a place. -/
def partner? (cs : List Char) (i : Nat) : Option Nat :=
  if cs[i]? = some '(' then (closing? 0 (cs.drop (i + 1))).map (i + 1 + ·) else none

theorem deepen_eq_none_iff {d : Nat} {c : Char} : deepen d c = none ↔ c = ')' ∧ d = 0 := by
  unfold deepen
  split
  · next ho => simp [ho]
  · split <;> simp [*]

/-- The search passes over what stays below the depth at which it ends. -/
theorem closing?_append {d d' : Nat} {inner : List Char} (h : depth? d inner = some d')
    (rest : List Char) :
    closing? d (inner ++ rest) = (closing? d' rest).map (· + inner.length) := by
  induction inner generalizing d with
  | nil =>
      obtain rfl := Option.some.inj h
      simp
  | cons c inner ih =>
      rw [depth?_cons, Option.bind_eq_some_iff] at h
      obtain ⟨deeper, hc, h⟩ := h
      rw [List.cons_append, closing?, hc]
      simp [ih h, Function.comp_def, Nat.add_assoc]

theorem closing?_eq_some_iff {d n : Nat} {cs : List Char} : closing? d cs = some n ↔
    ∃ inner back, cs = inner ++ ')' :: back ∧ inner.length = n ∧ depth? d inner = some 0 := by
  constructor
  · intro h
    induction cs generalizing d n with
    | nil => exact absurd h (by simp [closing?])
    | cons c cs ih =>
        rw [closing?] at h
        split at h
        · next hc =>
          obtain ⟨rfl, rfl⟩ := deepen_eq_none_iff.1 hc
          exact ⟨[], cs, rfl, Option.some.inj h, rfl⟩
        · next deeper hc =>
          obtain ⟨n, hn, rfl⟩ := Option.map_eq_some_iff.1 h
          obtain ⟨inner, back, rfl, rfl, hdepth⟩ := ih hn
          exact ⟨c :: inner, back, rfl, rfl, by rw [depth?_cons, hc, Option.bind_some, hdepth]⟩
  · rintro ⟨inner, back, rfl, rfl, hdepth⟩
    rw [closing?_append hdepth]
    simp [closing?, deepen]

/-- Exactly the parentheses with a balanced text between them are partners. -/
theorem partner?_eq_some_iff {cs : List Char} {i j : Nat} : partner? cs i = some j ↔
    ∃ front inner back, cs = front ++ '(' :: (inner ++ ')' :: back) ∧ front.length = i ∧
      i + 1 + inner.length = j ∧ Balanced inner := by
  unfold partner?
  constructor
  · intro h
    split at h
    · next ho =>
      obtain ⟨n, hn, rfl⟩ := Option.map_eq_some_iff.1 h
      obtain ⟨inner, back, hdrop, rfl, hdepth⟩ := closing?_eq_some_iff.1 hn
      obtain ⟨hlt, ho⟩ := List.getElem?_eq_some_iff.1 ho
      refine ⟨cs.take i, inner, back, ?_, ?_, rfl, balanced_iff_depth?.2 hdepth⟩
      · rw [← hdrop, ← ho, ← List.drop_eq_getElem_cons hlt, List.take_append_drop]
      · exact List.length_take_of_le (Nat.le_of_lt hlt)
    · exact absurd h (by simp)
  · rintro ⟨front, inner, back, rfl, rfl, rfl, hbalanced⟩
    have hclosing : closing? 0 (inner ++ ')' :: back) = some inner.length :=
      closing?_eq_some_iff.2 ⟨inner, back, rfl, rfl, balanced_iff_depth?.1 hbalanced⟩
    simp [hclosing]

example : partner? "a(b()c)d)".toList 1 = some 6 := by decide

end TreeQuery.Text
