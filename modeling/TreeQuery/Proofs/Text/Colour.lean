import TreeQuery.Proofs.Text.Numeral

set_option autoImplicit false

/-! # Texts without their colours

A colour is set by an escape sequence, which goes from the escape character with a bracket behind it
to the next `m`. `uncolour` takes all sequences out of a text. A coloured text `Shows` another one
if that is what is left of it whatever stands behind it; this goes through the text piece by piece,
while `uncolour` alone does not: a sequence that is begun in one piece would end in the next. -/

namespace TreeQuery.Text

/-- The character that begins an escape sequence. -/
def escape : Char := '\x1b'

/-- Take the escape sequences out of a text, given whether it begins inside of one. Where there is
no `m` any more there is no sequence. -/
def uncolourFrom : Bool → List Char → List Char
  | _, [] => []
  | true, c :: cs => uncolourFrom (c ≠ 'm') cs
  | false, c :: cs =>
    if c = escape ∧ cs.head? = some '[' ∧ 'm' ∈ cs then uncolourFrom true cs
    else c :: uncolourFrom false cs

/-- A text without its escape sequences. -/
def uncolour (s : String) : String := String.ofList (uncolourFrom false s.toList)

/-- What is left of a text without its escape sequences, whatever stands behind it. -/
def Shows (s t : String) : Prop :=
  ∀ rest, uncolourFrom false (s.toList ++ rest) = t.toList ++ uncolourFrom false rest

variable {s s' t t' : String}

theorem Shows.uncolour_eq (h : Shows s t) : uncolour s = t := by
  have hrest := h []
  rw [List.append_nil] at hrest
  rw [uncolour, hrest, uncolourFrom, List.append_nil, String.ofList_toList]

/-! ## Pieces -/

theorem uncolourFrom_append_of_plain {cs : List Char} (h : escape ∉ cs) (rest : List Char) :
    uncolourFrom false (cs ++ rest) = cs ++ uncolourFrom false rest := by
  induction cs with
  | nil => rfl
  | cons c cs ih =>
      rw [List.mem_cons, not_or] at h
      obtain ⟨hc, hcs⟩ := h
      rw [List.cons_append, uncolourFrom, if_neg fun hbegins => hc hbegins.1.symm, ih hcs]
      rfl

/-- Inside of a sequence everything is left out up to the next `m`. -/
theorem uncolourFrom_true {body : List Char} (h : 'm' ∉ body) (rest : List Char) :
    uncolourFrom true (body ++ 'm' :: rest) = uncolourFrom false rest := by
  induction body with
  | nil => rfl
  | cons c body ih =>
      rw [List.mem_cons, not_or] at h
      obtain ⟨hc, hbody⟩ := h
      rw [List.cons_append, uncolourFrom, decide_eq_true (Ne.symm hc)]
      exact ih hbody

/-- A text without the escape character shows itself. -/
theorem shows_of_plain (h : escape ∉ s.toList) : Shows s s := uncolourFrom_append_of_plain h

theorem shows_toString (n : Nat) : Shows (toString n) (toString n) :=
  shows_of_plain (not_mem_toString (by decide) n)

/-- Of an escape sequence nothing shows. -/
theorem shows_sequence (body : List Char) (hs : s.toList = escape :: '[' :: (body ++ ['m']))
    (hbody : 'm' ∉ body) : Shows s "" := by
  intro rest
  have htext : s.toList ++ rest = escape :: ('[' :: body ++ 'm' :: rest) := by simp [hs]
  have hinside : 'm' ∉ '[' :: body := by simp [hbody]
  rw [htext, uncolourFrom, if_pos ⟨rfl, rfl, by simp⟩, uncolourFrom_true hinside]
  rfl

theorem shows_empty : Shows "" "" := fun _ => rfl

theorem Shows.append (h : Shows s t) (h' : Shows s' t') : Shows (s ++ s') (t ++ t') := by
  intro rest
  rw [String.toList_append, String.toList_append, List.append_assoc, h, h', List.append_assoc]

theorem Shows.append_plain (h : Shows s t) {u : String} (hu : escape ∉ u.toList) :
    Shows (s ++ u) (t ++ u) :=
  h.append (shows_of_plain hu)

theorem Shows.plain_append {u : String} (hu : escape ∉ u.toList) (h : Shows s t) :
    Shows (u ++ s) (u ++ t) :=
  (shows_of_plain hu).append h

/-! ## Lists of pieces -/

section Lists

variable {α : Type} {l : List α} {f g : α → String}

theorem shows_join (h : ∀ a ∈ l, Shows (f a) (g a)) :
    Shows (String.join (l.map f)) (String.join (l.map g)) := by
  induction l with
  | nil => exact shows_empty
  | cons a l ih =>
      rw [List.map_cons, List.map_cons, String.join_cons, String.join_cons]
      exact (h a (List.mem_cons_self ..)).append (ih fun x hx => h x (List.mem_cons_of_mem _ hx))

theorem shows_intercalate (hs : escape ∉ s.toList) (h : ∀ a ∈ l, Shows (f a) (g a)) :
    Shows (s.intercalate (l.map f)) (s.intercalate (l.map g)) := by
  induction l with
  | nil =>
      rw [List.map_nil, List.map_nil, String.intercalate_nil]
      exact shows_empty
  | cons a l ih =>
      have ha := h a (List.mem_cons_self ..)
      have hrest := ih fun x hx => h x (List.mem_cons_of_mem _ hx)
      cases l with
      | nil =>
          rw [List.map_singleton, List.map_singleton, String.intercalate_singleton,
            String.intercalate_singleton]
          exact ha
      | cons b l =>
          simp only [List.map_cons, String.intercalate_cons_cons] at hrest ⊢
          exact (ha.append_plain hs).append hrest

end Lists

end TreeQuery.Text
