set_option autoImplicit false

/-! # Where a scan stops

A reader takes characters from the front of a text as long as they pass a test. If what was written
passes it and what follows does not, then the scan stops exactly between the two. -/

namespace TreeQuery.Text

variable {p : Char → Bool} {front rest : List Char}

/-- The part of a text in front of a character that is not looked for. -/
theorem takeWhile_append (hfront : ∀ c ∈ front, p c) (hrest : ∀ c ∈ rest.head?, p c = false) :
    (front ++ rest).takeWhile p = front := by
  rw [List.takeWhile_append_of_pos hfront]
  cases rest with
  | nil => simp
  | cons c rest =>
      rw [List.takeWhile_cons_of_neg (by simp [hrest c rfl]), List.append_nil]

theorem dropWhile_append (hfront : ∀ c ∈ front, p c) (hrest : ∀ c ∈ rest.head?, p c = false) :
    (front ++ rest).dropWhile p = rest := by
  rw [List.dropWhile_append_of_pos hfront]
  cases rest with
  | nil => rfl
  | cons c rest => rw [List.dropWhile_cons_of_neg (by simp [hrest c rfl])]

/-- A scan for a character passes over texts without it. -/
theorem decide_ne_of_not_mem {c : Char} {cs : List Char} (h : c ∉ cs) :
    ∀ x ∈ cs, decide (x ≠ c) = true := fun _ hx => decide_eq_true fun heq => h (heq ▸ hx)

/-- Behind the first part of a text every part begins with the separator. -/
theorem intercalate_cons (c : Char) (first : List Char) (parts : List (List Char)) :
    [c].intercalate (first :: parts) = first ++ parts.flatMap (c :: ·) := by
  induction parts generalizing first with
  | nil => simp
  | cons part parts ih => simp [ih]

end TreeQuery.Text
