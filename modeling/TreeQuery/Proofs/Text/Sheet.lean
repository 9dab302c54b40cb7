import Mathlib.Data.List.Basic
import TreeQuery.Proofs.Text.Scan

set_option autoImplicit false

/-! # Sheets

A sheet is a text of lines that end with a line feed, and a line is made of cells with a blank
between each two of them. As long as no cell holds one of these two characters, splitting a sheet at
them gives its cells back (`readSheet_sheet`), so sheets with the same text have the same cells. -/

namespace TreeQuery.Text

/-- The line of some cells. -/
def line (cells : List String) : String := " ".intercalate cells ++ "\n"

theorem line_cons (cell : String) (cells : List String) :
    line (cell :: cells) = cell ++ String.join (cells.map (" " ++ ·)) ++ "\n" := by
  have hcells : " ".intercalate (cell :: cells) = cell ++ String.join (cells.map (" " ++ ·)) := by
    induction cells generalizing cell with
    | nil => simp
    | cons next cells ih => rw [String.intercalate_cons_cons, ih, List.map_cons, String.join_cons,
        String.append_assoc, String.append_assoc]
  rw [line, hcells]

/-- The text of some rows of cells. -/
def sheet (rows : List (List String)) : String := String.join (rows.map line)

/-- The cells of a line, given its characters without the line feed. -/
def readLine (cs : List Char) : List String := (cs.splitOn ' ').map String.ofList

/-- The rows of a sheet; behind its last line feed there is no row any more. -/
def readSheet (s : String) : List (List String) := (s.toList.splitOn '\n').dropLast.map readLine

/-- A row has a cell, and no cell holds a blank or a line feed. -/
structure Separable (cells : List String) : Prop where
  ne_nil : cells ≠ []
  blank : ∀ cell ∈ cells, ' ' ∉ cell.toList
  lineFeed : ∀ cell ∈ cells, '\n' ∉ cell.toList

variable {cells : List String} {rows rows' : List (List String)}

theorem readLine_intercalate (h : Separable cells) :
    readLine (" ".intercalate cells).toList = cells := by
  have hblank : ∀ cs ∈ cells.map String.toList, ' ' ∉ cs := by
    intro cs hcs
    obtain ⟨cell, hcell, rfl⟩ := List.mem_map.1 hcs
    exact h.blank cell hcell
  have hsplit : (" ".intercalate cells).toList.splitOn ' ' = cells.map String.toList := by
    rw [String.toList_intercalate]
    exact List.splitOn_intercalate ' ' hblank (by simpa using h.ne_nil)
  rw [readLine, hsplit, List.map_map]
  exact List.map_id'' (fun cell => String.ofList_toList) cells

theorem lineFeed_not_mem_intercalate (h : Separable cells) :
    '\n' ∉ (" ".intercalate cells).toList := by
  obtain ⟨first, rest, rfl⟩ := List.exists_cons_of_ne_nil h.ne_nil
  have hsep : " ".toList = [' '] := rfl
  rw [String.toList_intercalate, hsep, List.map_cons, intercalate_cons, List.mem_append,
    List.flatMap_map, List.mem_flatMap]
  rintro (hfirst | ⟨cell, hcell, hmem⟩)
  · exact h.lineFeed first (List.mem_cons_self ..) hfirst
  · refine h.lineFeed cell (List.mem_cons_of_mem _ hcell) ?_
    exact (List.mem_cons.1 hmem).resolve_left (by decide)

/-- Texts that all end with a character are the parts between its places, and an empty one. -/
theorem flatMap_concat {α : Type} (c : α) (parts : List (List α)) :
    parts.flatMap (· ++ [c]) = [c].intercalate (parts ++ [[]]) := by
  induction parts with
  | nil => rfl
  | cons part parts ih =>
      cases parts with
      | nil => simp
      | cons next parts =>
          rw [List.flatMap_cons, ih]
          simp only [List.cons_append, List.intercalate_cons_cons]

/-- **Sheets can be read back.** -/
theorem readSheet_sheet (h : ∀ cells ∈ rows, Separable cells) : readSheet (sheet rows) = rows := by
  let lines := rows.map fun cells => (" ".intercalate cells).toList
  have htext : (sheet rows).toList = ['\n'].intercalate (lines ++ [[]]) := by
    rw [← flatMap_concat, sheet, String.toList_join, List.flatMap_map, List.flatMap_map]
    refine List.flatMap_congr fun cells _ => ?_
    rw [line, String.toList_append]
    rfl
  have hfree : ∀ cs ∈ lines ++ [[]], '\n' ∉ cs := by
    intro cs hcs
    rcases List.mem_append.1 hcs with hcs | hcs
    · obtain ⟨cells, hcells, rfl⟩ := List.mem_map.1 hcs
      exact lineFeed_not_mem_intercalate (h cells hcells)
    · obtain rfl := List.mem_singleton.1 hcs
      exact List.not_mem_nil
  rw [readSheet, htext, List.splitOn_intercalate '\n' hfree (by simp), List.dropLast_concat,
    List.map_map]
  have hlines : ∀ cells ∈ rows, readLine (" ".intercalate cells).toList = cells :=
    fun cells hcells => readLine_intercalate (h cells hcells)
  exact (List.map_congr_left hlines).trans (List.map_id rows)

theorem eq_of_sheet_eq (h : ∀ cells ∈ rows, Separable cells)
    (h' : ∀ cells ∈ rows', Separable cells) (hsheet : sheet rows = sheet rows') : rows = rows' := by
  rw [← readSheet_sheet h, ← readSheet_sheet h', hsheet]

end TreeQuery.Text
