import TableScan.Report

/-!
# Rows between tabs

A line of cells with tabs between them is cut at the tabs again, so a table is read back from its
lines where no cell has a tab or a line feed in it and none looks like a null (`IsPlain`). One row
stands apart: a line of nothing is what a lone empty cell would be, and a pair of quotes is written
in its place (`shown`), which is also what a lone cell of two quotes is written as.
-/

namespace TableScan

namespace Report

def cellOf (text : List Char) : Option String :=
  if text = nullText.toList then none else some (String.ofList text)

/-- The rows of the lines of a text, each ended by a line feed. -/
def tabbedRows (text : String) : List Row :=
  (Text.pieces '\n' text.toList).dropLast.map fun line => (Text.pieces '\t' line).map cellOf

/-- The row that the line of `row` looks like. -/
def shown (row : Row) : Row := if row = [some ""] then [some "\"\""] else row

/-- A row of at least one cell, each of which can be told from its neighbours and from a null. -/
structure IsPlain (row : Row) : Prop where
  ne_nil : row ≠ []
  not_tab : ∀ cell ∈ row, ∀ v ∈ cell, '\t' ∉ v.toList
  not_lineFeed : ∀ cell ∈ row, ∀ v ∈ cell, '\n' ∉ v.toList
  ne_null : ∀ cell ∈ row, cell ≠ some nullText

instance (row : Row) : Decidable (IsPlain row) :=
  decidable_of_iff (row ≠ [] ∧ (∀ cell ∈ row, ∀ v ∈ cell, '\t' ∉ v.toList) ∧
      (∀ cell ∈ row, ∀ v ∈ cell, '\n' ∉ v.toList) ∧ ∀ cell ∈ row, cell ≠ some nullText)
    ⟨fun ⟨h₁, h₂, h₃, h₄⟩ => ⟨h₁, h₂, h₃, h₄⟩, fun h => ⟨h.1, h.2, h.3, h.4⟩⟩

variable {row : Row} {cell : Option String} {c : Char}

theorem cellOf_getD (h : cell ≠ some nullText) : cellOf (cell.getD nullText).toList = cell := by
  cases cell with
  | none => exact if_pos rfl
  | some v =>
    have hv : v.toList ≠ nullText.toList := fun heq => h (congrArg some (String.toList_inj.1 heq))
    rw [Option.getD_some, cellOf, if_neg hv, String.ofList_toList]

def cellTexts (row : Row) : List (List Char) := row.map fun cell => (cell.getD nullText).toList

theorem toList_intercalate_cells (row : Row) :
    ("\t".intercalate (row.map (·.getD nullText))).toList = Text.joined '\t' (cellTexts row) := by
  rw [String.toList_intercalate, List.map_map, Text.joined_eq_intercalate]
  rfl

theorem not_mem_cellTexts (hnull : c ∉ nullText.toList)
    (h : ∀ cell ∈ row, ∀ v ∈ cell, c ∉ v.toList) : ∀ text ∈ cellTexts row, c ∉ text := by
  refine List.forall_mem_map.2 ?_
  rintro (_ | v) hv
  · exact hnull
  · exact h _ hv v rfl

theorem intercalate_eq_empty_iff (h : row ≠ []) :
    "\t".intercalate (row.map (·.getD nullText)) = "" ↔ row = [some ""] := by
  rw [← String.toList_inj, toList_intercalate_cells]
  constructor
  · intro hempty
    rcases Text.joined_eq_nil_iff.1 hempty with hnil | hnil
    · exact absurd (List.map_eq_nil_iff.1 hnil) h
    · obtain ⟨cell, rfl, hcell⟩ := List.map_eq_singleton_iff.1 hnil
      cases cell with
      | none => exact absurd hcell (by decide)
      | some v => rw [show v = "" from String.toList_eq_nil_iff.1 hcell]
  · rintro rfl
    rfl

theorem tabbed_of_ne (h : row ≠ []) (hne : row ≠ [some ""]) :
    tabbed row = "\t".intercalate (row.map (·.getD nullText)) :=
  if_neg (mt (intercalate_eq_empty_iff h).1 hne)

namespace IsPlain

/-- The line of a row is cut into its cells, and stays one line among others. -/
theorem pieces_tabbed (h : IsPlain row) :
    (Text.pieces '\t' (tabbed row).toList).map cellOf = shown row ∧
      '\n' ∉ (tabbed row).toList := by
  by_cases hrow : row = [some ""]
  · subst hrow
    decide
  · rw [tabbed_of_ne h.ne_nil hrow, toList_intercalate_cells, shown, if_neg hrow]
    have hne : cellTexts row ≠ [] := fun hnil => h.ne_nil (List.map_eq_nil_iff.1 hnil)
    refine ⟨?_, ?_⟩
    · rw [Text.pieces_joined hne (not_mem_cellTexts (by decide) h.not_tab), cellTexts, List.map_map]
      refine (List.map_congr_left fun cell hcell => ?_).trans (List.map_id row)
      exact cellOf_getD (h.ne_null cell hcell)
    · intro hmem
      rcases Text.mem_of_mem_joined hmem with heq | ⟨text, htext, hmem'⟩
      · exact absurd heq (by decide)
      · exact not_mem_cellTexts (by decide) h.not_lineFeed text htext hmem'

end IsPlain

theorem toList_lines_tabs (names : List String) (rows : List Row) :
    (lines .tabs names rows).toList =
      (rows.map fun row => (tabbed row).toList).flatMap (· ++ ['\n']) := by
  rw [lines, String.toList_join, List.flatMap_map, List.flatMap_map]
  simp only [line, String.toList_append]
  rfl

theorem tabbedRows_lines (names : List String) {rows : List Row} (h : ∀ row ∈ rows, IsPlain row) :
    tabbedRows (lines .tabs names rows) = rows.map shown := by
  have hlines : ∀ text ∈ rows.map fun row => (tabbed row).toList, '\n' ∉ text :=
    List.forall_mem_map.2 fun row hrow => (h row hrow).pieces_tabbed.2
  rw [tabbedRows, toList_lines_tabs, Text.pieces_flatMap_ended hlines, List.dropLast_concat,
    List.map_map]
  exact List.map_congr_left fun row hrow => (h row hrow).pieces_tabbed.1

theorem shown_eq_self_iff : shown row = row ↔ row ≠ [some ""] := by
  unfold shown
  split
  · rename_i hrow
    subst hrow
    decide
  · rename_i hrow
    exact ⟨fun _ => hrow, fun _ => rfl⟩

theorem map_shown_eq_self_iff {rows : List Row} : rows.map shown = rows ↔ [some ""] ∉ rows := by
  induction rows with
  | nil => simp
  | cons row rows ih =>
    rw [List.map_cons, List.cons.injEq, shown_eq_self_iff, ih, List.mem_cons, not_or]
    exact and_congr_left fun _ => ne_comm

/-- The lines of a table are cut into its rows again, with the cells as they are, but for a lone
empty cell: it comes back as a pair of quotes, so a table is read back just if it has none. -/
theorem tabbed_rows_read_back (names : List String) (rows : List Row)
    (plain : ∀ row ∈ rows, IsPlain row) :
    tabbedRows (lines .tabs names rows) = rows.map shown ∧
    (tabbedRows (lines .tabs names rows) = rows ↔ [some ""] ∉ rows) ∧
    ∀ row ∈ rows, row ≠ [some ""] →
      line .tabs names row = "\t".intercalate (row.map (·.getD nullText)) ++ "\n" := by
  have hread := tabbedRows_lines names plain
  refine ⟨hread, ?_, ?_⟩
  · rw [hread, map_shown_eq_self_iff]
  · intro row hrow hne
    rw [line, tabbed_of_ne (plain row hrow).ne_nil hne]

theorem tabbed_rows_read_back_of_quotes_and_empty_cells :
    let names := ["a", "b"]
    let rows : List Row :=
      [[some "a \"quoted\" value", some ""], [none, some "x\r"], [some "", none]]
    (∀ row ∈ rows, IsPlain row) ∧ tabbedRows (lines .tabs names rows) = rows ∧
      lines .tabs names rows = "a \"quoted\" value\t\n\\N\tx\r\n\t\\N\n" := by
  intro names rows
  have hplain : ∀ row ∈ rows, IsPlain row := by decide
  obtain ⟨-, hread, -⟩ := tabbed_rows_read_back names rows hplain
  exact ⟨hplain, hread.2 (by decide), by decide⟩

/-- A lone empty cell is lost, whoever reads the text: a lone pair of quotes has the same line. -/
theorem lone_empty_cell_is_not_read_back :
    (¬ ∀ (w : Nat) (names : List String) (rows : List Row), 1 ≤ w →
      (∀ row ∈ rows, row.length = w ∧ IsPlain row) →
        tabbedRows (lines .tabs names rows) = rows) ∧
    lines .tabs ["v"] [[some "x"], [some ""], [some "y"]] = "x\n\"\"\ny\n" ∧
    lines .tabs ["v"] [[some ""]] = lines .tabs ["v"] [[some "\"\""]] := by
  refine ⟨?_, by decide, by decide⟩
  intro h
  have hread := h 1 ["v"] [[some "x"], [some ""], [some "y"]] (by decide) (by decide)
  exact absurd hread (by decide)

end Report

end TableScan
