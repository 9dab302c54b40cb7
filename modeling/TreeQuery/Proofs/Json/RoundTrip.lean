import TreeQuery.Proofs.Json.Scalars

set_option autoImplicit false

/-! # JSON texts can be read back

What is written of a value is read as that value, as long as its numbers are integers of 64 bits
(`Whole`); numbers of binary64 are left out, since reading them is not exact. The reader is bounded
by a number of steps. Each value takes two of them away and has a character of its own, so by
induction on that number everything is read that is at most half as long (`Reader.readsBack`). -/

namespace TreeQuery.Json

mutual

/-- All numbers in a value are integers of 64 bits. -/
def Whole : Json → Prop
  | number (.integer i) => -(UInt64.size / 2 : Nat) ≤ i ∧ i < UInt64.size
  | number (.binary _) => False
  | array vs => WholeItems vs
  | object ms => WholeMembers ms
  | _ => True

/-- All numbers in the items of an array are integers of 64 bits. -/
def WholeItems : List Json → Prop
  | [] => True
  | v :: vs => Whole v ∧ WholeItems vs

/-- All numbers in the members of an object are integers of 64 bits. -/
def WholeMembers : List (String × Json) → Prop
  | [] => True
  | (_, v) :: ms => Whole v ∧ WholeMembers ms

end

namespace Reader

variable {c : Char} {cs behind rest : List Char} {v : Json} {vs : List Json} {k : String}
  {ms : List (String × Json)} {fuel : Nat}

/-! ## Where values begin -/

/-- A character with which a value can begin. -/
def Opens (c : Char) : Prop := c ∈ ['n', 't', 'f', '"', '[', '\x7b', '-'] ∨ c.isDigit = true

instance (c : Char) : Decidable (Opens c) := inferInstanceAs (Decidable (_ ∨ _))

theorem Opens.not_blank (h : Opens c) :
    ¬ (c = ' ' || c = '\t' || c = '\n' || c = '\r') = true := by
  simp only [Bool.or_eq_true, decide_eq_true_eq]
  rintro (((rfl | rfl) | rfl) | rfl) <;> exact absurd h (by decide)

theorem skip_of_opens (h : Opens c) (cs : List Char) : skip (c :: cs) = c :: cs :=
  List.dropWhile_cons_of_neg h.not_blank

theorem toList_quote (s : String) :
    (quote s).toList = '"' :: (s.toList.flatMap escapeChar ++ ['"']) := by
  simp [quote]

theorem toList_array (vs : List Json) :
    (array vs).text.toList = '[' :: ((itemsText vs).toList ++ [']']) := by
  simp [text]

theorem toList_object (ms : List (String × Json)) :
    (object ms).text.toList = '\x7b' :: ((membersText ms).toList ++ ['\x7d']) := by
  simp [text]

theorem toList_itemsText (v w : Json) (vs : List Json) :
    (itemsText (v :: w :: vs)).toList = v.text.toList ++ ',' :: (itemsText (w :: vs)).toList := by
  simp [itemsText]

theorem toList_membersText_singleton (k : String) (v : Json) :
    (membersText [(k, v)]).toList = (quote k).toList ++ ':' :: v.text.toList := by
  simp [membersText]

theorem toList_membersText (k : String) (v : Json) (m : String × Json) (ms : List (String × Json)) :
    (membersText ((k, v) :: m :: ms)).toList =
      (quote k).toList ++ ':' :: (v.text.toList ++ ',' :: (membersText (m :: ms)).toList) := by
  simp [membersText]

theorem exists_toString (i : Int) : ∃ c cs, (toString i).toList = c :: cs ∧
    (c = '-' ∨ c.isDigit = true) := by
  cases i with
  | ofNat n =>
      have htext : toString (Int.ofNat n) = toString n := rfl
      obtain ⟨c, cs, hcons⟩ := List.exists_cons_of_ne_nil (Text.toString_ne_nil n)
      have hmem : c ∈ (toString n).toList := hcons ▸ List.mem_cons_self
      exact ⟨c, cs, htext ▸ hcons, .inr (Text.isDigit_of_mem_toString hmem)⟩
  | negSucc n => exact ⟨'-', _, Number.toList_negSucc n, .inl rfl⟩

/-- A value begins with a character of its own. -/
theorem exists_opens (hv : v.Whole) : ∃ c cs, v.text.toList = c :: cs ∧ Opens c := by
  cases v with
  | null => exact ⟨'n', _, rfl, .inl (by decide)⟩
  | bool b =>
      cases b with
      | false => exact ⟨'f', _, rfl, .inl (by decide)⟩
      | true => exact ⟨'t', _, rfl, .inl (by decide)⟩
  | number n =>
      cases n with
      | integer i =>
          obtain ⟨c, cs, hcons, hc⟩ := exists_toString i
          refine ⟨c, cs, hcons, hc.imp_left fun hminus => ?_⟩
          rw [hminus]
          decide
      | binary bits => exact hv.elim
  | string s => exact ⟨'"', _, toList_quote s, .inl (by decide)⟩
  | array vs => exact ⟨'[', _, toList_array vs, .inl (by decide)⟩
  | object ms => exact ⟨'\x7b', _, toList_object ms, .inl (by decide)⟩

theorem exists_opens_items (hvs : WholeItems (v :: vs)) :
    ∃ c cs, (itemsText (v :: vs)).toList = c :: cs ∧ Opens c := by
  obtain ⟨c, cs, hcons, hc⟩ := exists_opens hvs.1
  cases vs with
  | nil => exact ⟨c, cs, hcons, hc⟩
  | cons w vs => exact ⟨c, _, by rw [toList_itemsText, hcons, List.cons_append], hc⟩

theorem exists_quote (m : String × Json) (ms : List (String × Json)) :
    ∃ cs, (membersText (m :: ms)).toList = '"' :: cs := by
  obtain ⟨k, v⟩ := m
  cases ms with
  | nil => exact ⟨_, by rw [toList_membersText_singleton, toList_quote, List.cons_append]⟩
  | cons m ms => exact ⟨_, by rw [toList_membersText, toList_quote, List.cons_append]⟩

/-! ## Steps of the reader -/

theorem value_string (s : String) (rest : List Char) :
    value (fuel + 1) ((quote s).toList ++ rest) = some (.string s, rest) := by
  rw [toList_quote, List.cons_append, List.append_assoc, value, skip_of_opens (.inl (by decide))]
  simp only [List.singleton_append, string_quote]
  rfl

theorem value_number {n : Number} (hc : c = '-' ∨ c.isDigit = true)
    (h : Number.read (c :: cs) = some (n, rest)) :
    value (fuel + 1) (c :: cs) = some (.number n, rest) := by
  have hopens : Opens c := hc.imp_left fun hminus => by rw [hminus]; decide
  rw [value, skip_of_opens hopens]
  split
  case h_7 => simp [h]
  all_goals
    next heq =>
      obtain ⟨rfl, -⟩ := List.cons.inj heq
      exact absurd hc (by decide)

theorem value_array (hc : Opens c) (h : items fuel (c :: cs) = some (vs, rest)) :
    value (fuel + 1) ('[' :: c :: cs) = some (.array vs, rest) := by
  have hbracket : c ≠ ']' := by
    rintro rfl
    exact absurd hc (by decide)
  rw [value, skip_of_opens (.inl (by decide))]
  simp [skip_of_opens hc, hbracket, h]

theorem value_object (h : members fuel ('"' :: cs) = some (ms, rest)) :
    value (fuel + 1) ('\x7b' :: '"' :: cs) = some (.object ms, rest) := by
  rw [value, skip_of_opens (.inl (by decide))]
  simp [skip_of_opens (c := '"') (.inl (by decide)), h]

theorem items_last (hv : value fuel cs = some (v, ']' :: rest)) :
    items (fuel + 1) cs = some ([v], rest) := by
  rw [items, hv]
  rfl

theorem items_next (hv : value fuel cs = some (v, ',' :: behind))
    (hvs : items fuel behind = some (vs, rest)) : items (fuel + 1) cs = some (v :: vs, rest) := by
  rw [items, hv]
  have hskip : skip (',' :: behind) = ',' :: behind := rfl
  simp only [bind, Option.bind, hskip, hvs]
  rfl

theorem members_last (hv : value fuel cs = some (v, '\x7d' :: rest)) :
    members (fuel + 1) ((quote k).toList ++ ':' :: cs) = some ([(k, v)], rest) := by
  rw [toList_quote, List.cons_append, List.append_assoc, members, skip_of_opens (.inl (by decide))]
  have hskip : skip (':' :: cs) = ':' :: cs := rfl
  simp only [List.singleton_append, string_quote, bind, Option.bind, hskip, hv]
  rfl

theorem members_next (hv : value fuel cs = some (v, ',' :: behind))
    (hms : members fuel behind = some (ms, rest)) :
    members (fuel + 1) ((quote k).toList ++ ':' :: cs) = some ((k, v) :: ms, rest) := by
  rw [toList_quote, List.cons_append, List.append_assoc, members, skip_of_opens (.inl (by decide))]
  have hskip : skip (':' :: cs) = ':' :: cs := rfl
  have hskip' : skip (',' :: behind) = ',' :: behind := rfl
  simp only [List.singleton_append, string_quote, bind, Option.bind, hskip, hskip', hv, hms]
  rfl

/-! ## Values -/

/-- With some number of steps the reader reads back whatever is short enough for it. -/
structure ReadsBack (fuel : Nat) : Prop where
  value : ∀ {v : Json} {rest : List Char}, v.Whole → 2 * v.text.toList.length ≤ fuel + 1 →
    Number.Ends rest → value fuel (v.text.toList ++ rest) = some (v, rest)
  items : ∀ {v : Json} {vs : List Json} {rest : List Char}, WholeItems (v :: vs) →
    2 * (itemsText (v :: vs)).toList.length ≤ fuel →
    items fuel ((itemsText (v :: vs)).toList ++ ']' :: rest) = some (v :: vs, rest)
  members : ∀ {m : String × Json} {ms : List (String × Json)} {rest : List Char},
    WholeMembers (m :: ms) → 2 * (membersText (m :: ms)).toList.length ≤ fuel →
    members fuel ((membersText (m :: ms)).toList ++ '\x7d' :: rest) = some (m :: ms, rest)

theorem readsBack_zero : ReadsBack 0 where
  value hv hfuel _ := by
    obtain ⟨c, cs, hcons, -⟩ := exists_opens hv
    rw [hcons, List.length_cons] at hfuel
    omega
  items hvs hfuel := by
    obtain ⟨c, cs, hcons, -⟩ := exists_opens_items hvs
    rw [hcons, List.length_cons] at hfuel
    omega
  members {m ms _} _ hfuel := by
    obtain ⟨cs, hcons⟩ := exists_quote m ms
    rw [hcons, List.length_cons] at hfuel
    omega

variable {m : String × Json}

theorem ReadsBack.value_succ (h : ReadsBack fuel) (hv : v.Whole)
    (hfuel : 2 * v.text.toList.length ≤ fuel + 2) (hrest : Number.Ends rest) :
    Reader.value (fuel + 1) (v.text.toList ++ rest) = some (v, rest) := by
  cases v with
  | null => rfl
  | bool b => cases b <;> rfl
  | number n =>
      cases n with
      | integer i =>
          obtain ⟨c, cs, hcons, hc⟩ := exists_toString i
          have hread := Number.read_integer hv.1 hv.2 hrest
          have htext : (number (.integer i)).text.toList = c :: cs := hcons
          rw [hcons] at hread
          rw [htext]
          exact value_number hc hread
      | binary bits => exact hv.elim
  | string s => exact value_string s rest
  | array vs =>
      cases vs with
      | nil => rfl
      | cons w vs =>
          rw [toList_array] at hfuel ⊢
          simp only [List.length_cons, List.length_append] at hfuel
          have hitems : Reader.items fuel ((itemsText (w :: vs)).toList ++ ']' :: rest) =
              some (w :: vs, rest) := h.items hv (by omega)
          obtain ⟨c, cs, hcons, hc⟩ := exists_opens_items hv
          rw [hcons] at hitems ⊢
          simpa using value_array hc hitems
  | object ms =>
      cases ms with
      | nil => rfl
      | cons m ms =>
          rw [toList_object] at hfuel ⊢
          simp only [List.length_cons, List.length_append] at hfuel
          have hmembers : Reader.members fuel ((membersText (m :: ms)).toList ++ '\x7d' :: rest) =
              some (m :: ms, rest) := h.members hv (by omega)
          obtain ⟨cs, hcons⟩ := exists_quote m ms
          rw [hcons] at hmembers ⊢
          simpa using value_object hmembers

theorem ReadsBack.items_succ (h : ReadsBack fuel) (hvs : WholeItems (v :: vs))
    (hfuel : 2 * (itemsText (v :: vs)).toList.length ≤ fuel + 1) :
    Reader.items (fuel + 1) ((itemsText (v :: vs)).toList ++ ']' :: rest) =
      some (v :: vs, rest) := by
  cases vs with
  | nil => exact items_last (h.value hvs.1 hfuel (Number.ends_cons (by decide) _))
  | cons w vs =>
      rw [toList_itemsText] at hfuel ⊢
      simp only [List.length_append, List.length_cons] at hfuel
      rw [List.append_assoc, List.cons_append]
      exact items_next (h.value hvs.1 (by omega) (Number.ends_cons (by decide) _))
        (h.items hvs.2 (by omega))

theorem ReadsBack.members_succ (h : ReadsBack fuel) (hms : WholeMembers (m :: ms))
    (hfuel : 2 * (membersText (m :: ms)).toList.length ≤ fuel + 1) :
    Reader.members (fuel + 1) ((membersText (m :: ms)).toList ++ '\x7d' :: rest) =
      some (m :: ms, rest) := by
  obtain ⟨k, v⟩ := m
  cases ms with
  | nil =>
      rw [toList_membersText_singleton] at hfuel ⊢
      simp only [List.length_append, List.length_cons] at hfuel
      rw [List.append_assoc, List.cons_append]
      exact members_last (h.value hms.1 (by omega) (Number.ends_cons (by decide) _))
  | cons m ms =>
      rw [toList_membersText] at hfuel ⊢
      simp only [List.length_append, List.length_cons] at hfuel
      rw [List.append_assoc, List.cons_append, List.append_assoc, List.cons_append]
      exact members_next (h.value hms.1 (by omega) (Number.ends_cons (by decide) _))
        (h.members hms.2 (by omega))

/-- By induction on the number of steps. -/
theorem readsBack (fuel : Nat) : ReadsBack fuel := by
  induction fuel with
  | zero => exact readsBack_zero
  | succ fuel ih => exact ⟨ih.value_succ, ih.items_succ, ih.members_succ⟩

end Reader

/-- **JSON texts can be read back.** -/
theorem ofText?_text {v : Json} (hv : v.Whole) : ofText? v.text = some v := by
  have hread := (Reader.readsBack (2 * v.text.toList.length + 2)).value hv (by omega)
    Number.ends_nil
  rw [List.append_nil] at hread
  rw [ofText?, hread]
  rfl

end TreeQuery.Json
