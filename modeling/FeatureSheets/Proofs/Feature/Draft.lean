import FeatureSheets.Feature.Draft
import FeatureSheets.Proofs.Feature.Examples
import FeatureSheets.Proofs.Feature.Locality
import FeatureSheets.Proofs.Feature.Steps

/-!
# Drafts read back

A draft that is well formed is what its text says. Each line that is written is read as what it
was written for, however far it is indented (`linesOf_text`), and the lines are read back to the
scenarios of the draft (`parse_text`). Where a scenario has one table with different headers, the
table can be read off its examples, but for the columns that begin with an empty cell
(`parse_draft`).
-/

namespace FeatureSheets

open Text

/-! ## Phrases and cells -/

theorem trim_of_trimLine {s : Text} (h : trimLine s = s) : trim s = s := by
  have hblank : ∀ c, isMargin c = false → isBlank c = false := by
    intro c hc
    exact (Bool.or_eq_false_iff.1 hc).1
  rw [trimLine] at h
  apply trimBy_eq_self
  · intro c hc
    exact hblank c (head?_trimBy (by rw [h]; exact hc))
  · intro c hc
    exact hblank c (getLast?_trimBy (by rw [h]; exact hc))

/-- A word and a phrase after it are read as the phrase, also an empty one. -/
theorem isTitled_append {word : Text} {title : Text}
    (hfirst : ∃ c, word.head? = some c ∧ isMargin c = false)
    (hlast : ∃ c, word.getLast? = some c ∧ isMargin c = false) (htitle : trimLine title = title) :
    Line.IsTitled word (word ++ ' ' :: title) title := by
  obtain ⟨first, hfirst, hnot⟩ := hfirst
  obtain ⟨last, hlast, hnot'⟩ := hlast
  have hhead : ∀ s : Text, ∀ c ∈ (word ++ s).head?, isMargin c = false := by
    intro s c hc
    rw [List.head?_append, hfirst] at hc
    exact Option.some.inj hc ▸ hnot
  by_cases hnil : title = []
  · -- the blank after the word is trimmed
    refine ⟨[], ?_, by rw [hnil]; rfl⟩
    have hword : trimLine word = word := by
      apply trimBy_eq_self
      · simpa using hhead []
      · intro c hc
        rw [hlast] at hc
        exact Option.some.inj hc ▸ hnot'
    have hblank : ∀ c ∈ [' '], isMargin c = true := List.forall_mem_singleton.2 (by decide)
    have hmargin : trimLine ([] ++ word ++ [' ']) = trimLine word :=
      trimBy_append_append word (by simp) hblank
    rw [hword] at hmargin
    rw [hnil, List.append_nil]
    exact hmargin
  · refine ⟨' ' :: title, ?_, ?_⟩
    · apply trimBy_eq_self (hhead _)
      intro c hc
      rw [List.getLast?_append, List.getLast?_cons, List.getLast?_eq_some_getLast hnil] at hc
      apply getLast?_trimBy (s := title)
      rw [← trimLine, htitle, List.getLast?_eq_some_getLast hnil]
      simpa using hc
    · have hblank : ∀ c ∈ [' '], isBlank c = true := List.forall_mem_singleton.2 (by decide)
      have hmargin : trim ([' '] ++ title ++ []) = trim title :=
        trimBy_append_append title hblank (by simp)
      rw [List.append_nil, trim_of_trimLine htitle] at hmargin
      exact hmargin.symm

/-! ## Table rows -/

/-- A row is a pipe, and a field and a pipe for each cell. -/
theorem splitOn_draftRow {cells : List Text} (h : ∀ cell ∈ cells, '|' ∉ cell) :
    (draftRow cells).splitOn '|' = [] :: cells.map (fun cell => ' ' :: cell ++ [' ']) ++ [[]] := by
  have hpipe : ∀ (a : Text) (b : Text), '|' ∉ a →
      (a ++ '|' :: b).splitOn '|' = a :: b.splitOn '|' := by
    intro a b ha
    rw [List.splitOn_append_cons_self, List.splitOn_eq_singleton ha]
    rfl
  have hfields : (cells.flatMap fun cell => ' ' :: cell ++ [' ', '|']).splitOn '|' =
      cells.map (fun cell => ' ' :: cell ++ [' ']) ++ [[]] := by
    induction cells with
    | nil => rfl
    | cons cell cells ih =>
      have hcell : '|' ∉ ' ' :: cell ++ [' '] := by
        simpa using h cell (by simp)
      have hcut := hpipe (' ' :: cell ++ [' '])
        (cells.flatMap fun cell => ' ' :: cell ++ [' ', '|']) hcell
      rw [ih fun cell' hcell' => h cell' (by simp [hcell'])] at hcut
      simpa using hcut
  have hfirst := hpipe [] (cells.flatMap fun cell => ' ' :: cell ++ [' ', '|']) (by simp)
  rw [hfields] at hfirst
  exact hfirst

/-- The cells of a row that was written are read back. -/
theorem cells_draftRow {cells : List Text} (h : ∀ cell ∈ cells, IsCell cell) :
    TableRow.cells (draftRow cells) = cells := by
  have htrim : cells.map (trim ∘ fun cell => ' ' :: cell ++ [' ']) = cells := by
    rw [List.map_congr_left, List.map_id]
    intro cell hcell
    have hblank : ∀ c ∈ [' '], isBlank c = true := List.forall_mem_singleton.2 (by decide)
    have hmargin : trim ([' '] ++ cell ++ [' ']) = trim cell :=
      trimBy_append_append cell hblank hblank
    rw [(h cell hcell).2.2] at hmargin
    exact hmargin
  apply TableRow.cells_of_rawCells_eq
  rw [TableRow.rawCells, splitOn_draftRow fun cell hcell => (h cell hcell).2.1, List.map_append,
    List.map_cons, List.map_map, htrim]
  rfl

/-! ## What each line is read as -/

theorem read_draftTitle {title : Text} (h : IsPhrase title) :
    Line.read ("Feature: ".toList ++ title) = .feature title := by
  have hword : "Feature: ".toList = "Feature:".toList ++ [' '] := by decide
  rw [hword, List.append_assoc, List.singleton_append, Line.read_eq_feature_iff]
  exact isTitled_append ⟨'F', by decide, by decide⟩ ⟨':', by decide, by decide⟩ h.2

theorem read_draftName {name : Text} (h : IsPhrase name) :
    Line.read ("Scenario Outline: ".toList ++ name) = .scenario name := by
  have hword : "Scenario Outline: ".toList = "Scenario Outline:".toList ++ [' '] := by decide
  rw [hword, List.append_assoc, List.singleton_append, Line.read_eq_scenario_iff]
  exact ⟨"Scenario Outline:".toList, by simp [Line.scenarioWords],
    isTitled_append ⟨'S', by decide, by decide⟩ ⟨':', by decide, by decide⟩ h.2⟩

theorem read_draftStep {step : Keyword × Text} (h : IsPhrase (draftStep step)) :
    Line.read (draftStep step) = .step (draftStep step) := by
  have hsplit : Keyword.split? (draftStep step) = some (step.1, trimStart step.2) :=
    Keyword.split?_eq_some_iff.2 ⟨' ', step.2, rfl, by decide, rfl⟩
  rw [Line.read_eq_step_iff, h.2, hsplit]
  exact ⟨rfl, rfl⟩

theorem read_draftRow (cells : List Text) :
    Line.read (draftRow cells) = .row (draftRow cells) := by
  have hlast : (draftRow cells).getLast? = some '|' := by
    rcases List.eq_nil_or_concat cells with rfl | ⟨front, cell, rfl⟩
    · rfl
    · simp [draftRow, List.getLast?_cons]
  have htrim : trimLine (draftRow cells) = draftRow cells := by
    apply trimBy_eq_self
    · intro c hc
      obtain rfl : '|' = c := Option.some.inj hc
      decide
    · intro c hc
      rw [hlast] at hc
      obtain rfl : '|' = c := Option.some.inj hc
      decide
  rw [Line.read_eq_row_iff, Line.opensWith_iff, htrim]
  exact ⟨rfl, _, rfl⟩

/-! ## What a draft says -/

/-- What the lines of a table say. -/
def DraftTable.meaning (t : DraftTable) : List Line :=
  .examples :: .row (draftRow t.headers) :: t.rows.map fun row => .row (draftRow row)

/-- What the lines of a scenario say after the first one. -/
def DraftScenario.meaning (s : DraftScenario) : List Line :=
  s.steps.map (fun step => .step (draftStep step)) ++ s.tables.flatMap DraftTable.meaning

/-- What the lines of a document say. -/
def Draft.meaning (d : Draft) : List Line :=
  .feature d.title :: d.scenarios.flatMap fun s => .scenario s.name :: s.meaning

theorem map_read_tableLines (t : DraftTable) : t.lines.map Line.read = t.meaning := by
  have hexamples : Line.read "Examples:".toList = .examples := by decide
  rw [DraftTable.lines, List.map_cons, List.map_cons, List.map_map, hexamples, read_draftRow]
  have hrows : Line.read ∘ draftRow = fun row => .row (draftRow row) := funext read_draftRow
  rw [hrows]
  rfl

theorem map_read_scenarioLines {s : DraftScenario} (h : s.IsWellFormed) :
    s.lines.map Line.read = .scenario s.name :: s.meaning := by
  have hsteps : (s.steps.map draftStep).map Line.read =
      s.steps.map fun step => .step (draftStep step) := by
    rw [List.map_map]
    apply List.map_congr_left
    intro step hstep
    exact read_draftStep (h.steps_isPhrase step hstep)
  have htables : (s.tables.flatMap DraftTable.lines).map Line.read =
      s.tables.flatMap DraftTable.meaning := by
    rw [List.map_flatMap]
    simp only [map_read_tableLines]
  rw [DraftScenario.lines, List.map_append, List.map_cons, hsteps, htables,
    read_draftName h.name_isPhrase]
  rfl

/-- Every line is read as what it was written for. -/
theorem map_read_draftLines {d : Draft} (h : d.IsWellFormed) :
    d.lines.map Line.read = d.meaning := by
  have hscenarios : (d.scenarios.flatMap DraftScenario.lines).map Line.read =
      d.scenarios.flatMap fun s => .scenario s.name :: s.meaning := by
    rw [List.map_flatMap, List.flatMap_def, List.flatMap_def]
    congr 1
    apply List.map_congr_left
    intro s hs
    exact map_read_scenarioLines (h.scenarios_isWellFormed s hs)
  rw [Draft.lines, List.map_cons, hscenarios, read_draftTitle h.title_isPhrase]
  rfl

/-! ## The text of a draft -/

theorem not_mem_draftRow {cells : List Text} (h : ∀ cell ∈ cells, '\n' ∉ cell) :
    '\n' ∉ draftRow cells := by
  simp only [draftRow, List.mem_cons, List.mem_flatMap, List.mem_append, not_or, not_exists,
    not_and]
  refine ⟨by decide, ?_⟩
  intro cell hcell
  exact ⟨⟨by decide, h cell hcell⟩, by decide⟩

theorem not_mem_tableLines {t : DraftTable} (h : t.IsWellFormed) :
    ∀ line ∈ t.lines, '\n' ∉ line := by
  rw [DraftTable.lines, List.forall_mem_cons, List.forall_mem_cons, List.forall_mem_map]
  refine ⟨by decide, ?_, ?_⟩
  · exact not_mem_draftRow fun cell hcell => (h.headers_isCell cell hcell).1
  · intro row hrow
    exact not_mem_draftRow fun cell hcell => (h.rows_isCell row hrow cell hcell).1

/-- Every line of a draft is one line. -/
theorem not_mem_draftLines {d : Draft} (h : d.IsWellFormed) : ∀ line ∈ d.lines, '\n' ∉ line := by
  rw [Draft.lines, List.forall_mem_cons]
  constructor
  · rw [List.mem_append, not_or]
    exact ⟨by decide, h.title_isPhrase.1⟩
  · intro line hline
    obtain ⟨s, hs, hline⟩ := List.mem_flatMap.1 hline
    have hwell := h.scenarios_isWellFormed s hs
    rw [DraftScenario.lines, List.cons_append, List.mem_cons, List.mem_append] at hline
    rcases hline with rfl | hline | hline
    · rw [List.mem_append, not_or]
      exact ⟨by decide, hwell.name_isPhrase.1⟩
    · obtain ⟨step, hstep, rfl⟩ := List.mem_map.1 hline
      exact (hwell.steps_isPhrase step hstep).1
    · obtain ⟨t, ht, hline⟩ := List.mem_flatMap.1 hline
      exact not_mem_tableLines (hwell.tables_isWellFormed t ht) line hline

/-- However far its lines are indented, a draft says what its lines were written for. -/
theorem linesOf_text {d : Draft} (h : d.IsWellFormed) {indent : Nat → Text}
    (hindent : ∀ i, ∀ c ∈ indent i, isMargin c = true ∧ c ≠ '\n') :
    Feature.linesOf (d.text indent) = d.meaning := by
  have hlines : (d.text indent).lines = d.lines.mapIdx fun i line => indent i ++ line := by
    apply lines_joinWith
    · rw [Ne, List.mapIdx_eq_nil_iff]
      exact List.cons_ne_nil _ _
    · intro line hline
      obtain ⟨i, hi, rfl⟩ := List.mem_mapIdx.1 hline
      rw [List.mem_append, not_or]
      exact ⟨fun hmem => (hindent i _ hmem).2 rfl, not_mem_draftLines h _ (List.getElem_mem hi)⟩
  have hread : ∀ i line, Line.read (indent i ++ line) = Line.read line := by
    intro i line
    have hmargin :=
      Line.read_append_append (b := []) line (fun c hc => (hindent i c hc).1) (by simp)
    rwa [List.append_nil] at hmargin
  rw [Feature.linesOf, hlines, ← map_read_draftLines h]
  apply List.ext_getElem
  · simp
  · intro i hi hi'
    simp [hread]

/-! ## Reading the draft back -/

/-- A table as it is read. -/
def DraftTable.toTable (t : DraftTable) : ExampleTable :=
  ⟨t.headers, t.rows⟩

/-- The scenario that a scenario of a draft is read as. -/
def DraftScenario.toScenario (s : DraftScenario) : Scenario where
  name := s.name
  steps := s.steps.map draftStep
  examples := Entries.empty.collect (s.tables.flatMap fun t => t.toTable.cells)
  hasExamples := !s.tables.isEmpty

/-- Lines that open no table come before the next table. -/
theorem takeWhile_not_isExamples_append {lines : List Line}
    (h : ∀ l ∈ lines, l.isExamples = false) (tables : List DraftTable) :
    (lines ++ tables.flatMap DraftTable.meaning).takeWhile (fun l => !l.isExamples) = lines := by
  have hstop : (tables.flatMap DraftTable.meaning).takeWhile (fun l => !l.isExamples) = [] := by
    cases tables with
    | nil => rfl
    | cons t tables => rfl
  rw [List.takeWhile_append_of_pos, hstop, List.append_nil]
  intro l hl
  simp [h l hl]

/-- Lines that open no table give none. -/
theorem tablesOf_append_of_forall {lines : List Line} (h : ∀ l ∈ lines, l.isExamples = false)
    (rest : List Line) : tablesOf (lines ++ rest) = tablesOf rest := by
  induction lines with
  | nil => rfl
  | cons l lines ih =>
    obtain ⟨hl, hlines⟩ := List.forall_mem_cons.1 h
    rw [List.cons_append, tablesOf_cons_of_neg hl, ih hlines]

/-- The rows of a table are read back. -/
theorem filterMap_cells?_rows {rows : List (List Text)}
    (h : ∀ row ∈ rows, ∀ cell ∈ row, IsCell cell) :
    (rows.map fun row => Line.row (draftRow row)).filterMap Line.cells? = rows := by
  have hread : ∀ row ∈ rows,
      (Line.cells? ∘ fun row => Line.row (draftRow row)) row = some row := by
    intro row hrow
    exact congrArg some (cells_draftRow (h row hrow))
  rw [List.filterMap_map, List.filterMap_congr hread, List.filterMap_some]

/-- The lines of tables give the tables. -/
theorem tablesOf_flatMap_meaning {tables : List DraftTable}
    (h : ∀ t ∈ tables, t.IsWellFormed) :
    tablesOf (tables.flatMap DraftTable.meaning) = tables.map DraftTable.toTable := by
  induction tables with
  | nil => rfl
  | cons t tables ih =>
    obtain ⟨ht, htables⟩ := List.forall_mem_cons.1 h
    have hmeaning : t.meaning =
        .examples :: (t.headers :: t.rows).map fun row => .row (draftRow row) := rfl
    have hopen : ∀ l ∈ (t.headers :: t.rows).map fun row => Line.row (draftRow row),
        l.isExamples = false := by
      rw [List.forall_mem_map]
      exact fun row _ => rfl
    have hcells : ∀ row ∈ t.headers :: t.rows, ∀ cell ∈ row, IsCell cell :=
      List.forall_mem_cons.2 ⟨ht.headers_isCell, ht.rows_isCell⟩
    -- the rows of a table end where the next one begins
    rw [List.flatMap_cons, hmeaning, List.cons_append, tablesOf_cons_examples,
      takeWhile_not_isExamples_append hopen, filterMap_cells?_rows hcells,
      ExampleTable.ofRows_cons ht.headers_ne_nil, tablesOf_append_of_forall hopen, ih htables]
    rfl

/-- The lines of a scenario give the scenario. -/
theorem ofLines_meaning {s : DraftScenario} (h : s.IsWellFormed) :
    Scenario.ofLines s.name s.meaning = s.toScenario := by
  have hsteps : ∀ l ∈ s.steps.map (fun step => Line.step (draftStep step)),
      l.isExamples = false := by
    rw [List.forall_mem_map]
    exact fun step _ => rfl
  have htables : tablesOf s.meaning = s.tables.map DraftTable.toTable := by
    rw [DraftScenario.meaning, tablesOf_append_of_forall hsteps,
      tablesOf_flatMap_meaning h.tables_isWellFormed]
  have hany : s.meaning.any Line.isExamples = !s.tables.isEmpty := by
    have hnone : (s.steps.map fun step => Line.step (draftStep step)).any Line.isExamples =
        false := by
      rw [List.any_eq_false]
      intro l hl
      simp [hsteps l hl]
    rw [DraftScenario.meaning, List.any_append, hnone]
    cases s.tables with
    | nil => rfl
    | cons t tables => rfl
  have hread : (s.steps.map fun step => Line.step (draftStep step)).filterMap Line.step? =
      s.steps.map draftStep := by
    rw [List.filterMap_map, ← List.filterMap_eq_map]
    rfl
  rw [Scenario.ofLines, htables, hany, DraftScenario.meaning,
    takeWhile_not_isExamples_append hsteps, hread, List.flatMap_map]
  rfl

/-- After its first line a scenario is told by steps and tables alone. -/
theorem mem_meaning_cases {s : DraftScenario} {l : Line} (h : l ∈ s.meaning) :
    l = .examples ∨ (∃ step, l = .step step) ∨ ∃ row, l = .row row := by
  rcases List.mem_append.1 h with h | h
  · obtain ⟨step, -, rfl⟩ := List.mem_map.1 h
    exact Or.inr (Or.inl ⟨_, rfl⟩)
  · obtain ⟨t, -, h⟩ := List.mem_flatMap.1 h
    rw [DraftTable.meaning, List.mem_cons, List.mem_cons, List.mem_map] at h
    rcases h with rfl | rfl | ⟨row, -, rfl⟩
    · exact Or.inl rfl
    · exact Or.inr (Or.inr ⟨_, rfl⟩)
    · exact Or.inr (Or.inr ⟨_, rfl⟩)

/-- Scenarios that are written one after the other are read one after the other, whatever was
read before them. -/
theorem scenarios_feedAll_meaning {scenarios : List DraftScenario}
    (h : ∀ s ∈ scenarios, s.IsWellFormed) (r : Reader) :
    (r.feedAll (scenarios.flatMap fun s => .scenario s.name :: s.meaning)).scenarios =
      r.scenarios ++ scenarios.map DraftScenario.toScenario := by
  induction scenarios generalizing r with
  | nil => exact (List.append_nil _).symm
  | cons s scenarios ih =>
    obtain ⟨hs, hscenarios⟩ := List.forall_mem_cons.1 h
    have hmeaning : ∀ l ∈ s.meaning, l.isScenario = false := by
      intro l hl
      rcases mem_meaning_cases hl with rfl | ⟨step, rfl⟩ | ⟨row, rfl⟩ <;> rfl
    rw [List.flatMap_cons, Reader.feedAll_append, ih hscenarios,
      Reader.scenarios_feedAll_cons_of_isScenario r rfl, Reader.scenarios_feedAll_slice _ hmeaning,
      ofLines_meaning hs, List.map_cons, List.append_assoc, List.singleton_append]

/-- Lines that give no title leave it. -/
theorem title_feedAll_of_ne {lines : List Line} {r : Reader}
    (h : ∀ l ∈ lines, ∀ title, l ≠ .feature title) : (r.feedAll lines).title = r.title := by
  induction lines generalizing r with
  | nil => rfl
  | cons l lines ih =>
    obtain ⟨hl, hlines⟩ := List.forall_mem_cons.1 h
    rw [Reader.feedAll, List.foldl_cons, ← Reader.feedAll, ih hlines]
    cases l with
    | feature title => exact absurd rfl (hl title)
    | _ => rfl

/-- What comes after the first line gives no title. -/
theorem title_feedAll_meaning (scenarios : List DraftScenario) (r : Reader) :
    (r.feedAll (scenarios.flatMap fun s => .scenario s.name :: s.meaning)).title = r.title := by
  apply title_feedAll_of_ne
  intro l hl title heq
  obtain ⟨s, -, hl⟩ := List.mem_flatMap.1 hl
  rw [heq] at hl
  rcases List.mem_cons.1 hl with hname | hl
  · cases hname
  · rcases mem_meaning_cases hl with h | ⟨step, h⟩ | ⟨row, h⟩ <;> cases h

/-- A draft is read back from its text. -/
theorem parse_text {d : Draft} (h : d.IsWellFormed) {indent : Nat → Text}
    (hindent : ∀ i, ∀ c ∈ indent i, isMargin c = true ∧ c ≠ '\n') :
    Feature.parse (d.text indent) = ⟨d.title, d.scenarios.map DraftScenario.toScenario⟩ := by
  have htitle : Reader.start.feedAll d.meaning =
      (Reader.start.feed (.feature d.title)).feedAll
        (d.scenarios.flatMap fun s => .scenario s.name :: s.meaning) := rfl
  rw [Feature.parse, linesOf_text h hindent, htitle, Reader.result, title_feedAll_meaning,
    scenarios_feedAll_meaning h.scenarios_isWellFormed]
  rfl

/-! ## One table -/

/-- A column of a table, row by row. -/
def DraftTable.column (t : DraftTable) (i : Nat) : List Text :=
  t.rows.map fun row => row[i]?.getD []

/-- Below a header that stands once there is its column. -/
theorem columnOf_toTable {t : DraftTable} (h : t.headers.Nodup) {i : Nat} {header : Text}
    (hi : t.headers[i]? = some header) : columnOf header [t.toTable] = t.column i := by
  have hrow : ∀ row, cellsBelow header (ExampleTable.rowCells t.headers row) =
      [row[i]?.getD []] := by
    intro row
    have hone := filter_zipIdx_of_nodup h hi 0
    rw [Nat.zero_add] at hone
    rw [cellsBelow, ExampleTable.rowCells, List.filter_map, List.map_map]
    rw [show ((fun cell : Text × Text => cell.1 == header) ∘
      fun h : Text × Nat => (h.1, row[h.2]?.getD [])) = fun h => h.1 == header from rfl, hone]
    rfl
  have hrows : ∀ rows : List (List Text),
      cellsBelow header (rows.flatMap (ExampleTable.rowCells t.headers)) =
        rows.map fun row => row[i]?.getD [] := by
    intro rows
    induction rows with
    | nil => rfl
    | cons row rows ih =>
      rw [List.flatMap_cons, cellsBelow_append, hrow, ih]
      rfl
  rw [columnOf, List.flatMap_singleton]
  exact hrows t.rows

/-- A column that does not begin with an empty cell is cut where its cells were joined. -/
theorem splitOn_joinColumn_column {t : DraftTable} (h : t.IsWellFormed) (hrows : t.rows ≠ [])
    {i : Nat} (hfirst : (t.column i).head? ≠ some []) :
    (joinColumn (t.column i)).splitOn '|' = t.column i := by
  -- the first cell is not empty, so no cell is left out
  have hkept : (t.column i).dropWhile List.isEmpty = t.column i := by
    cases hcells : t.column i with
    | nil => rfl
    | cons cell cells =>
      rw [hcells] at hfirst
      rw [List.dropWhile_cons_of_neg]
      intro hempty
      rw [List.isEmpty_iff.1 hempty] at hfirst
      exact hfirst rfl
  have hvalue : joinColumn (t.column i) ≠ [] := by
    rw [Ne, joinColumn_eq_nil_iff, hkept, DraftTable.column, List.map_eq_nil_iff]
    exact hrows
  have hcells : ∀ cell ∈ t.column i, '|' ∉ cell := by
    rw [DraftTable.column, List.forall_mem_map]
    intro row hrow
    cases hcell : row[i]? with
    | none => exact List.not_mem_nil
    | some cell => exact (h.rows_isCell row hrow cell (List.mem_of_getElem? hcell)).2.1
  rw [splitOn_joinColumn hcells hvalue, hkept]

theorem columnNames_toTable {t : DraftTable} (h : t.headers.Nodup) (hrows : t.rows ≠ []) :
    columnNames [t.toTable] = t.headers := by
  have hkept : ([t.toTable].filter fun t => !t.rows.isEmpty) = [t.toTable] := by
    simp [DraftTable.toTable, hrows]
  rw [columnNames, hkept, List.flatMap_singleton]
  exact eraseDups_of_nodup h

/-- Whether a scenario is what a scenario of a draft says. The values of a header can be told where
it stands once, in the only table, and the first of them is not empty. -/
structure DraftScenario.IsReadAs (s : DraftScenario) (r : Scenario) : Prop where
  /-- The title is the same. -/
  name_eq : r.name = s.name
  /-- The steps are the same. -/
  steps_eq : r.steps = s.steps.map draftStep
  /-- There are examples where there is a table. -/
  hasExamples_iff : r.hasExamples = true ↔ s.tables ≠ []
  /-- The names of the examples are the headers of the table. -/
  keys_eq : ∀ t, s.tables = [t] → t.headers.Nodup → t.rows ≠ [] → r.examples.keys = t.headers
  /-- The value below a header is the column, row by row. -/
  splitOn_eq : ∀ t, s.tables = [t] → t.headers.Nodup → t.rows ≠ [] →
    ∀ i header, t.headers[i]? = some header → (t.column i).head? ≠ some [] →
      ∃ value, r.examples.get? header = some value ∧ value.splitOn '|' = t.column i

theorem isReadAs_toScenario {s : DraftScenario} (h : s.IsWellFormed) :
    s.IsReadAs s.toScenario := by
  have hexamples : ∀ t, s.tables = [t] →
      s.toScenario.examples = Entries.empty.collect ([t.toTable].flatMap ExampleTable.cells) := by
    intro t ht
    rw [DraftScenario.toScenario, ht, List.flatMap_singleton, List.flatMap_singleton]
  constructor
  case name_eq => rfl
  case steps_eq => rfl
  case hasExamples_iff =>
    rw [DraftScenario.toScenario]
    simp
  case keys_eq =>
    intro t ht hnodup hrows
    rw [hexamples t ht, Entries.keys_collect, eraseDups_map_fst_flatMap_cells,
      columnNames_toTable hnodup hrows]
  case splitOn_eq =>
    intro t ht hnodup hrows i header hi hfirst
    have hname : header ∈ (([t.toTable].flatMap ExampleTable.cells).map Prod.fst) := by
      rw [← List.mem_eraseDups, eraseDups_map_fst_flatMap_cells, columnNames_toTable hnodup hrows]
      exact List.mem_of_getElem? hi
    have hcolumn : cellsBelow header ([t.toTable].flatMap ExampleTable.cells) = t.column i :=
      columnOf_toTable hnodup hi
    refine ⟨joinColumn (t.column i), ?_, ?_⟩
    · rw [hexamples t ht, Entries.get?_collect, if_pos hname, hcolumn]
    · exact splitOn_joinColumn_column (h.tables_isWellFormed t (by simp [ht])) hrows hfirst

/-- **A draft is read back.** However far its lines are indented, and whether the last one is ended
or not, the text of a well-formed draft is read as the draft: the title, and scenario by scenario
the names, the steps and the examples. -/
theorem parse_draft {d : Draft} (h : d.IsWellFormed) {indent : Nat → Text}
    (hindent : ∀ i, ∀ c ∈ indent i, isMargin c = true ∧ c ≠ '\n') {ending : Text}
    (hending : ending = [] ∨ ending = ['\n']) :
    (Feature.parse (d.text indent ++ ending)).title = d.title ∧
      List.Forall₂ DraftScenario.IsReadAs d.scenarios
        (Feature.parse (d.text indent ++ ending)).scenarios := by
  have hparse : Feature.parse (d.text indent ++ ending) =
      ⟨d.title, d.scenarios.map DraftScenario.toScenario⟩ := by
    rw [← parse_text h hindent]
    rcases hending with rfl | rfl
    · rw [List.append_nil]
    · rw [Feature.parse_eq_ofLines, lines_append_newline,
        Feature.ofLines_append_silent _ (show Line.read [] = .silent from rfl),
        ← Feature.parse_eq_ofLines]
  rw [hparse]
  refine ⟨rfl, ?_⟩
  rw [List.forall₂_map_right_iff, List.forall₂_same]
  intro s hs
  exact isReadAs_toScenario (h.scenarios_isWellFormed s hs)

/-- A document without a title, with steps that look like comments, scenarios and rows, and with a
table that begins with an empty header and an empty row; its lines are indented by tabs and
byte-order marks. -/
theorem parse_draft_lookalikes :
    let table : DraftTable :=
      ⟨["".toList, "x".toList], [["".toList, "".toList], ["#".toList, "1".toList]]⟩
    let d : Draft := ⟨"".toList,
      [⟨"Scenario: A".toList,
        [(.givenWord, "# Scenario: B".toList), (.andWord, "| a | @b |".toList)], [table]⟩]⟩
    let indent : Nat → Text := fun i => if i = 0 then [byteOrderMark] else ['\t', '\r']
    d.IsWellFormed ∧ (∀ i, ∀ c ∈ indent i, isMargin c = true ∧ c ≠ '\n') ∧
      (Feature.parse (d.text indent ++ ['\n'])).title = d.title ∧
      List.Forall₂ DraftScenario.IsReadAs d.scenarios
        (Feature.parse (d.text indent ++ ['\n'])).scenarios := by
  intro table d indent
  have hwell : d.IsWellFormed := by decide +kernel
  have hindent : ∀ i, ∀ c ∈ indent i, isMargin c = true ∧ c ≠ '\n' := by
    intro i
    by_cases hi : i = 0
    · simp only [indent, if_pos hi, List.forall_mem_singleton]
      decide
    · simp only [indent, if_neg hi, List.forall_mem_cons]
      exact ⟨by decide, by decide, nofun⟩
  exact ⟨hwell, hindent, parse_draft hwell hindent (Or.inr rfl)⟩

end FeatureSheets
