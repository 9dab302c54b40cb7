import Mathlib.Data.List.TakeWhile
import TreeQuery.Proofs.Text.Scan
import TreeQuery.Text.Blank

set_option autoImplicit false

/-! # What trimming leaves

Trimming a text gives the one text that neither begins nor ends with a blank and differs from it by
blanks at its two ends only (`trim_eq_iff`). So a trimmed text stays as it is when it is trimmed
again, and nothing is left exactly of a text that has only blanks. -/

namespace TreeQuery.Text

/-- There are only blanks in a text. -/
def Blank (s : String) : Prop := ∀ c ∈ s.toList, isBlank c = true

/-- A text neither begins nor ends with a blank. -/
def Trimmed (s : String) : Prop :=
  (∀ c ∈ s.toList.head?, isBlank c = false) ∧ ∀ c ∈ s.toList.getLast?, isBlank c = false

instance (s : String) : Decidable (Blank s) :=
  decidable_of_iff (s.toList.all isBlank = true) List.all_eq_true

instance (s : String) : Decidable (Trimmed s) :=
  decidable_of_iff
    (s.toList.head?.all (!isBlank ·) = true ∧ s.toList.getLast?.all (!isBlank ·) = true) (by
      simp only [Trimmed, Option.all_eq_true, Option.mem_def, Bool.not_eq_true'])

/-- One text is another with blanks in front of it and behind it. -/
def Pads (s t : String) : Prop :=
  ∃ front back, (∀ c ∈ front, isBlank c = true) ∧ (∀ c ∈ back, isBlank c = true) ∧
    s.toList = front ++ (t.toList ++ back)

variable {s t : String}

theorem toList_trim (s : String) : (trim s).toList =
    ((s.toList.dropWhile isBlank).reverse.dropWhile isBlank).reverse :=
  String.toList_ofList

/-- What is left when the blanks in front are dropped does not begin with one. -/
theorem isBlank_of_head?_dropWhile {cs : List Char} :
    ∀ c ∈ (cs.dropWhile isBlank).head?, isBlank c = false := by
  intro c hc
  have hnot := List.head?_dropWhile_not isBlank cs
  rw [Option.mem_def.1 hc] at hnot
  exact hnot

theorem pads_trim (s : String) : Pads s (trim s) := by
  refine ⟨s.toList.takeWhile isBlank,
    ((s.toList.dropWhile isBlank).reverse.takeWhile isBlank).reverse,
    fun c hc => List.mem_takeWhile_imp hc,
    fun c hc => List.mem_takeWhile_imp (List.mem_reverse.1 hc), ?_⟩
  rw [toList_trim, ← List.reverse_append, List.takeWhile_append_dropWhile, List.reverse_reverse,
    List.takeWhile_append_dropWhile]

theorem trimmed_trim (s : String) : Trimmed (trim s) := by
  constructor
  · intro c hc
    -- The blanks behind it are dropped from a text that does not begin with a blank any more.
    have hprefix : (trim s).toList <+: s.toList.dropWhile isBlank := by
      rw [toList_trim, ← List.reverse_suffix, List.reverse_reverse]
      exact List.dropWhile_suffix _
    obtain ⟨back, hback⟩ := hprefix
    have hhead : c ∈ (s.toList.dropWhile isBlank).head? := by
      rw [← hback, List.head?_append, Option.mem_def.1 hc]
      rfl
    exact isBlank_of_head?_dropWhile c hhead
  · intro c hc
    rw [toList_trim, List.getLast?_reverse] at hc
    exact isBlank_of_head?_dropWhile c hc

/-- Only one text is left when blanks are taken away from both ends until there are none. -/
theorem trim_eq_of_pads (hpads : Pads s t) (ht : Trimmed t) : trim s = t := by
  obtain ⟨front, back, hfront, hback, hs⟩ := hpads
  refine String.toList_inj.1 ?_
  rw [toList_trim, hs]
  cases hcs : t.toList with
  | nil =>
      have hblank : (front ++ ([] ++ back)).dropWhile isBlank = [] := by
        rw [List.nil_append, List.dropWhile_append_of_pos hfront, List.dropWhile_eq_nil_iff]
        exact hback
      rw [hblank]
      rfl
  | cons c cs =>
      have hfirst : ∀ x ∈ ((c :: cs) ++ back).head?, isBlank x = false := by
        intro x hx
        exact ht.1 x (by rw [hcs]; exact hx)
      have hlast : ∀ x ∈ (c :: cs).reverse.head?, isBlank x = false := by
        intro x hx
        rw [List.head?_reverse, ← hcs] at hx
        exact ht.2 x hx
      have hback' : ∀ x ∈ back.reverse, isBlank x := fun x hx => hback x (List.mem_reverse.1 hx)
      rw [dropWhile_append hfront hfirst, List.reverse_append, dropWhile_append hback' hlast,
        List.reverse_reverse]

/-- **What trimming does.** -/
theorem trim_eq_iff : trim s = t ↔ Pads s t ∧ Trimmed t := by
  constructor
  · rintro rfl
    exact ⟨pads_trim s, trimmed_trim s⟩
  · rintro ⟨hpads, ht⟩
    exact trim_eq_of_pads hpads ht

theorem Trimmed.trim_eq (h : Trimmed s) : trim s = s :=
  trim_eq_iff.2 ⟨⟨[], [], by simp, by simp, by simp⟩, h⟩

/-- Nothing is left exactly of blanks. -/
theorem trim_eq_empty_iff : trim s = "" ↔ Blank s := by
  rw [trim_eq_iff]
  constructor
  · rintro ⟨⟨front, back, hfront, hback, hs⟩, -⟩ c hc
    rw [hs] at hc
    simp only [String.toList_empty, List.nil_append, List.mem_append] at hc
    exact hc.elim (hfront c) (hback c)
  · intro h
    exact ⟨⟨s.toList, [], h, by simp, by simp⟩, by decide⟩

end TreeQuery.Text
