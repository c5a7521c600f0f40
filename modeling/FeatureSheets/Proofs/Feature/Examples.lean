import FeatureSheets.Proofs.Feature.Record
import FeatureSheets.Proofs.Feature.TableRow
import FeatureSheets.Proofs.Lists
import Mathlib.Data.List.Induction

/-!
# What the example tables give

The value of a header grows cell by cell, with three rules for the cell that comes next, while
the headers change from table to table. What comes out has a closed form: the names are the
headers of the tables that have rows, and the value of a header is its column (`columnOf`) without
the empty cells in front, joined by `|` (`examples_parse`). No cell holds a `|`, so the value can
be cut into the column again.
-/

namespace FeatureSheets

/-! ## The value of a column -/

/-- The value that a column is collected to: its cells without the empty ones in front, joined
by `|`. -/
def joinColumn (column : List Text) : Text :=
  Text.joinWith '|' (column.dropWhile List.isEmpty)

theorem joinColumn_eq_nil_iff {column : List Text} :
    joinColumn column = [] ↔ column.dropWhile List.isEmpty = [] := by
  have hne : column.dropWhile List.isEmpty ≠ [[]] := by
    intro h
    have hhead := List.head?_dropWhile_not List.isEmpty column
    rw [h] at hhead
    cases hhead
  rw [joinColumn, Text.joinWith_eq_nil_iff, or_iff_left hne]

/-- One more cell at the end of a column is joined to the value there is. -/
theorem joinColumn_append_singleton (column : List Text) (cell : Text) :
    joinColumn (column ++ [cell]) = Scenario.joinCell cell (some (joinColumn column)) := by
  by_cases h : column.dropWhile List.isEmpty = []
  · -- so far every cell is empty
    rw [joinColumn_eq_nil_iff.2 h, joinColumn, List.dropWhile_append, h]
    cases cell with
    | nil => rfl
    | cons c cell => exact Text.joinWith_singleton '|' (c :: cell)
  · have hvalue : joinColumn column ≠ [] := fun he => h (joinColumn_eq_nil_iff.1 he)
    rw [joinColumn, List.dropWhile_append, if_neg (by simpa using h),
      Text.joinWith_append_singleton h, ← joinColumn]
    generalize joinColumn column = value at hvalue
    cases value with
    | nil => exact absurd rfl hvalue
    | cons c value => rfl

/-- The cells of a column are found again in its value, if there is one. -/
theorem splitOn_joinColumn {column : List Text} (hcells : ∀ cell ∈ column, '|' ∉ cell)
    (h : joinColumn column ≠ []) :
    (joinColumn column).splitOn '|' = column.dropWhile List.isEmpty := by
  have hne : column.dropWhile List.isEmpty ≠ [] := fun he => h (joinColumn_eq_nil_iff.2 he)
  apply Text.splitOn_joinWith hne
  intro cell hcell
  exact hcells cell ((List.dropWhile_sublist _).subset hcell)

/-! ## Collecting cells -/

/-- The cells below a header, wherever the header stands. -/
def cellsBelow (header : Text) (cells : List (Text × Text)) : List Text :=
  (cells.filter fun cell => cell.1 == header).map Prod.snd

theorem cellsBelow_append (header : Text) (a b : List (Text × Text)) :
    cellsBelow header (a ++ b) = cellsBelow header a ++ cellsBelow header b := by
  rw [cellsBelow, List.filter_append, List.map_append]
  rfl

/-- A header without a cell has nothing below it. -/
theorem cellsBelow_eq_nil {header : Text} {cells : List (Text × Text)}
    (h : header ∉ cells.map Prod.fst) : cellsBelow header cells = [] := by
  rw [cellsBelow, List.map_eq_nil_iff, List.filter_eq_nil_iff]
  intro cell hcell he
  exact h (List.mem_map.2 ⟨cell, hcell, by simpa using he⟩)

namespace Entries

theorem collect_append_singleton (e : Entries) (cells : List (Text × Text)) (header cell : Text) :
    e.collect (cells ++ [(header, cell)]) =
      (e.collect cells).alter header (Scenario.joinCell cell) :=
  e.collect_append cells [(header, cell)]

/-- The names are the headers in order of first appearance. -/
theorem keys_collect (cells : List (Text × Text)) :
    (empty.collect cells).keys = (cells.map Prod.fst).eraseDups := by
  induction cells using List.reverseRecOn with
  | nil => rfl
  | append_singleton cells cell ih =>
    obtain ⟨header, cell⟩ := cell
    rw [collect_append_singleton, keys_alter, ih, List.map_append, List.eraseDups_append]
    by_cases h : header ∈ cells.map Prod.fst
    · rw [if_pos (List.mem_eraseDups.2 h)]
      simp [h, List.removeAll]
    · rw [if_neg (mt List.mem_eraseDups.1 h)]
      simp [h, List.removeAll, List.eraseDups_cons]

/-- The value of a header is the column below it, joined. -/
theorem get?_collect (cells : List (Text × Text)) (header : Text) :
    (empty.collect cells).get? header =
      if header ∈ cells.map Prod.fst then some (joinColumn (cellsBelow header cells))
      else none := by
  -- cells join a value at its end, so the last cell is taken off first
  induction cells using List.reverseRecOn with
  | nil => rfl
  | append_singleton cells cell ih =>
    obtain ⟨header', cell⟩ := cell
    rw [collect_append_singleton, get?_alter, cellsBelow_append]
    by_cases he : header = header'
    · subst he
      have hnew : cellsBelow header [(header, cell)] = [cell] := by simp [cellsBelow]
      rw [if_pos rfl, if_pos (by simp), ih, hnew, joinColumn_append_singleton]
      by_cases h : header ∈ cells.map Prod.fst
      · rw [if_pos h]
      · -- the first cell of the column
        rw [if_neg h, cellsBelow_eq_nil h]
        rfl
    · have hnew : cellsBelow header [(header', cell)] = [] :=
        cellsBelow_eq_nil (by simpa using he)
      have hmem : header ∈ (cells ++ [(header', cell)]).map Prod.fst ↔
          header ∈ cells.map Prod.fst := by
        simp [he]
      rw [if_neg he, ih, hnew, List.append_nil]
      simp only [hmem]

end Entries

/-! ## Tables -/

namespace ExampleTable

theorem map_fst_rowCells (headers row : List Text) :
    (rowCells headers row).map Prod.fst = headers := by
  rw [rowCells, List.map_map]
  exact List.zipIdx_map_fst 0 headers

/-- The cells of a table name its headers over and over, if there is a row below them. -/
theorem eraseDups_append_map_fst_cells (t : ExampleTable) (before after : List Text) :
    (before ++ t.cells.map Prod.fst ++ after).eraseDups =
      (before ++ (if t.rows.isEmpty then [] else t.headers) ++ after).eraseDups := by
  obtain ⟨headers, rows⟩ := t
  cases rows with
  | nil => rfl
  | cons row rows =>
    have hmore : ∀ header ∈ (rows.flatMap (rowCells headers)).map Prod.fst,
        header ∈ before ++ headers := by
      intro header h
      rw [List.map_flatMap] at h
      obtain ⟨row, -, h⟩ := List.mem_flatMap.1 h
      rw [map_fst_rowCells] at h
      exact List.mem_append_right before h
    rw [cells, List.flatMap_cons, List.map_append, map_fst_rowCells, ← List.append_assoc,
      eraseDups_append_of_subset hmore]
    rfl

/-- What stands below a header is a cell of a row, or nothing where the row is too short. -/
theorem eq_nil_or_exists_row {rows : List (List Text)} {entry : Text × Text}
    (h : entry ∈ (ofRows rows).cells) : entry.2 = [] ∨ ∃ row ∈ rows, entry.2 ∈ row := by
  obtain ⟨row, hrow, h⟩ := List.mem_flatMap.1 h
  obtain ⟨⟨header, column⟩, -, rfl⟩ := List.mem_map.1 h
  have hrows : row ∈ rows := (List.dropWhile_sublist _).subset (List.mem_of_mem_tail hrow)
  show row[column]?.getD [] = [] ∨ ∃ row' ∈ rows, row[column]?.getD [] ∈ row'
  cases hcell : row[column]? with
  | none => exact Or.inl rfl
  | some cell => exact Or.inr ⟨row, hrows, List.mem_of_getElem? hcell⟩

end ExampleTable

/-- The headers of the tables that have rows, in order of first appearance. -/
def columnNames (tables : List ExampleTable) : List Text :=
  ((tables.filter fun t => !t.rows.isEmpty).flatMap ExampleTable.headers).eraseDups

/-- The cells below a header in all tables, table by table and row by row. -/
def columnOf (header : Text) (tables : List ExampleTable) : List Text :=
  cellsBelow header (tables.flatMap ExampleTable.cells)

/-- Only the tables that have rows give names. -/
theorem eraseDups_map_fst_flatMap_cells (tables : List ExampleTable) :
    ((tables.flatMap ExampleTable.cells).map Prod.fst).eraseDups = columnNames tables := by
  -- which headers are new depends on the tables before
  suffices h : ∀ before : List Text,
      (before ++ (tables.flatMap ExampleTable.cells).map Prod.fst).eraseDups =
        (before ++ (tables.filter fun t => !t.rows.isEmpty).flatMap
          ExampleTable.headers).eraseDups from
    h []
  induction tables with
  | nil => exact fun before => rfl
  | cons t tables ih =>
    intro before
    rw [List.flatMap_cons, List.map_append, ← List.append_assoc,
      t.eraseDups_append_map_fst_cells, ih, List.filter_cons]
    cases t.rows.isEmpty <;> simp

/-! ## Tables of a document -/

/-- The cells of a line of a document that is a table row. -/
def rowOf? (line : Text) : Option (List Text) :=
  if Line.opensWith ['|'] line then some (TableRow.cells (Text.trimLine line)) else none

theorem cells?_read (line : Text) : (Line.read line).cells? = rowOf? line := by
  by_cases h : Line.opensWith ['|'] line = true
  · rw [rowOf?, if_pos h, Line.read_eq_row_iff.2 ⟨rfl, h⟩, Line.cells?]
  · rw [rowOf?, if_neg h]
    cases hread : Line.read line with
    | row l => exact absurd (Line.read_eq_row_iff.1 hread).2 h
    | _ => rfl

/-- The tables of some lines of a document: one from each `Examples:` line, with the table rows
up to the next. -/
def exampleTables (lines : List Text) : List ExampleTable :=
  (slicesAt Line.opensExamples lines).map fun block => .ofRows (block.filterMap rowOf?)

theorem tablesOf_map_read (lines : List Text) :
    tablesOf (lines.map Line.read) = exampleTables lines := by
  have hopens : Line.isExamples ∘ Line.read = Line.opensExamples := funext Line.isExamples_read
  have hcells : Line.cells? ∘ Line.read = rowOf? := funext cells?_read
  rw [tablesOf, slicesAt_map, hopens, List.map_map, exampleTables]
  apply List.map_congr_left
  intro block _
  rw [Function.comp_apply, List.filterMap_map, hcells]

/-- What stands below a header is a cell of a line, or nothing where a row is too short. -/
theorem eq_nil_or_exists_line {header cell : Text} {lines : List Text}
    (h : cell ∈ columnOf header (exampleTables lines)) :
    cell = [] ∨ ∃ line ∈ lines, cell ∈ TableRow.cells (Text.trimLine line) := by
  obtain ⟨entry, hentry, rfl⟩ := List.mem_map.1 h
  obtain ⟨t, ht, hcell⟩ := List.mem_flatMap.1 (List.mem_filter.1 hentry).1
  obtain ⟨block, hblock, rfl⟩ := List.mem_map.1 ht
  apply (ExampleTable.eq_nil_or_exists_row hcell).imp_right
  intro ⟨row, hrow, hcell⟩
  obtain ⟨line, hline, hread⟩ := List.mem_filterMap.1 hrow
  rw [rowOf?, Option.ite_none_right_eq_some] at hread
  obtain rfl := Option.some.inj hread.2
  exact ⟨line, mem_of_mem_slicesAt hblock hline, hcell⟩

/-- No cell below a header holds a `|`. -/
theorem not_mem_of_mem_columnOf {header cell : Text} {lines : List Text}
    (h : cell ∈ columnOf header (exampleTables lines)) : '|' ∉ cell := by
  rcases eq_nil_or_exists_line h with hnil | ⟨line, -, hcell⟩
  · rw [hnil]
    exact List.not_mem_nil
  · exact TableRow.not_mem_of_mem_cells hcell

/-! ## The examples of a scenario -/

/-- The examples of `s` are what the tables of the slice give. -/
structure CollectsExamples (slice : List Text) (s : Scenario) : Prop where
  /-- The names are the headers of the tables that have rows. -/
  keys_eq : s.examples.keys = columnNames (exampleTables slice)
  /-- The value of a name is its column, joined. -/
  get?_eq : ∀ header, s.examples.get? header =
    if header ∈ s.examples.keys then some (joinColumn (columnOf header (exampleTables slice)))
    else none
  /-- A value is cut into the cells of its column again. -/
  splitOn_eq : ∀ header value, s.examples.get? header = some value → value ≠ [] →
    value.splitOn '|' = (columnOf header (exampleTables slice)).dropWhile List.isEmpty

theorem Scenario.keys_examples_ofLines (name : Text) (lines : List Line) :
    (ofLines name lines).examples.keys = columnNames (tablesOf lines) := by
  rw [ofLines, Entries.keys_collect, eraseDups_map_fst_flatMap_cells]

theorem Scenario.get?_examples_ofLines (name : Text) (lines : List Line) (header : Text) :
    (ofLines name lines).examples.get? header =
      if header ∈ columnNames (tablesOf lines) then
        some (joinColumn (columnOf header (tablesOf lines)))
      else none := by
  rw [ofLines, Entries.get?_collect, columnOf]
  simp only [← eraseDups_map_fst_flatMap_cells, List.mem_eraseDups]

/-- The record of a slice has the tables of the slice. -/
theorem IsRecordOf.exists_tablesOf_eq {slice : List Text} {s : Scenario}
    (h : IsRecordOf slice s) :
    ∃ name lines, s = .ofLines name lines ∧ tablesOf lines = exampleTables slice := by
  obtain ⟨name, first, rest, rfl, hname, -, rfl⟩ := h
  refine ⟨name, rest.map Line.read, rfl, ?_⟩
  -- the scenario line opens no table
  have hfirst : (Line.read first).isExamples = false := by
    rw [hname]
    rfl
  rw [← tablesOf_map_read, List.map_cons, tablesOf_cons_of_neg hfirst]

theorem collectsExamples_of_isRecordOf {slice : List Text} {s : Scenario}
    (h : IsRecordOf slice s) : CollectsExamples slice s := by
  obtain ⟨name, lines, rfl, htables⟩ := h.exists_tablesOf_eq
  have hkeys := Scenario.keys_examples_ofLines name lines
  have hget := Scenario.get?_examples_ofLines name lines
  rw [htables] at hkeys
  simp only [htables] at hget
  refine ⟨hkeys, fun header => by rw [hget, hkeys], fun header value hvalue hne => ?_⟩
  rw [hget] at hvalue
  split at hvalue
  · obtain rfl := Option.some.inj hvalue
    exact splitOn_joinColumn (fun _ => not_mem_of_mem_columnOf) hne
  · cases hvalue

/-- **Examples have a closed form.** Scenario by scenario, the names are the headers of the
tables that have rows, each once and in order of first appearance, and the value of a name is
its column, from all tables, without the empty cells in front and joined by `|`; a value that is
not empty is cut into these cells again. -/
theorem Feature.examples_parse (text : Text) :
    List.Forall₂ CollectsExamples (slicesAt Line.opensScenario text.lines)
      (parse text).scenarios :=
  (forall₂_isRecordOf text).imp fun _ _ => collectsExamples_of_isRecordOf

/-- The first cell of `a` is empty and left out; the short row leaves an empty cell in `b`. -/
example :
    (Feature.parse ("Scenario: S\nExamples:\n|a|b|\n||1|\n|2|\n".toList ++
        "Examples:\n|b|a|\n|3|4|5|".toList)).scenarios.map (fun s => s.examples.toList) =
      [[("a".toList, "2|4".toList), ("b".toList, "1||3".toList)]] := by
  decide

end FeatureSheets
