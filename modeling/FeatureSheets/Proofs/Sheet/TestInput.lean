import FeatureSheets.Proofs.Feature.Examples
import FeatureSheets.Proofs.Sheet.StepRows

/-!
# What a step is tried with

A step names a column of the example tables in its first placeholder, and its row lists the
values of that column. The placeholder is found by a scan from the left; `placeholder?_eq_some_iff`
says which one it is without the scan. The values went through a text in which they were joined
by `|`; what comes out (`testInput_convert`) is the column itself, without the empty cells in
front and each value once.
-/

namespace FeatureSheets

open Text

/-! ## The first placeholder -/

/-- `name` is not empty and stands in `line` between the `<` that follows `before` and the next
`>`. -/
def IsEnclosed (line before name : Text) : Prop :=
  name ≠ [] ∧ '>' ∉ name ∧ ∃ after, line = before ++ '<' :: (name ++ '>' :: after)

/-- `name` is enclosed in `line`, and nothing is enclosed further to the left. -/
def IsFirstPlaceholder (line name : Text) : Prop :=
  ∃ before, IsEnclosed line before name ∧
    ∀ before' name', IsEnclosed line before' name' → before.length ≤ before'.length

theorem not_isEnclosed_nil (before name : Text) : ¬IsEnclosed [] before name := by
  rintro ⟨-, -, after, h⟩
  simp at h

theorem isEnclosed_cons_cons {c d : Char} {line before name : Text} :
    IsEnclosed (c :: line) (d :: before) name ↔ c = d ∧ IsEnclosed line before name := by
  unfold IsEnclosed
  simp only [List.cons_append, List.cons.injEq]
  constructor
  · rintro ⟨hne, hnot, after, hc, hline⟩
    exact ⟨hc, hne, hnot, after, hline⟩
  · rintro ⟨hc, hne, hnot, after, hline⟩
    exact ⟨hne, hnot, after, hc, hline⟩

/-- What the first character encloses goes up to the next `>`, if there is one. -/
theorem isEnclosed_cons_nil_iff {c : Char} {line name : Text} :
    IsEnclosed (c :: line) [] name ↔
      c = '<' ∧ name ≠ [] ∧ line.takeWhile (· != '>') = name ∧
        line.dropWhile (· != '>') ≠ [] := by
  constructor
  · rintro ⟨hne, hnot, after, h⟩
    obtain ⟨rfl, rfl⟩ := List.cons.inj h
    have hall : ∀ d ∈ name, (d != '>') = true := by
      intro d hd
      simpa using fun e : d = '>' => hnot (e ▸ hd)
    refine ⟨rfl, hne, ?_, ?_⟩
    · rw [List.takeWhile_append_of_pos hall, List.takeWhile_cons_of_neg (by simp),
        List.append_nil]
    · rw [List.dropWhile_append_of_pos hall, List.dropWhile_cons_of_neg (by simp)]
      exact List.cons_ne_nil _ _
  · rintro ⟨rfl, hne, rfl, hdrop⟩
    refine ⟨hne, fun hmem => ?_, ?_⟩
    · simpa using List.mem_takeWhile_imp hmem
    · obtain ⟨d, after, hd⟩ := List.exists_cons_of_ne_nil hdrop
      have hhead := List.head?_dropWhile_not (· != '>') line
      rw [hd] at hhead
      obtain rfl : d = '>' := by simpa using hhead
      refine ⟨after, ?_⟩
      rw [← hd, List.takeWhile_append_dropWhile]
      rfl

/-- What the first character encloses is the first placeholder. -/
theorem isFirstPlaceholder_cons_of_isEnclosed {c : Char} {line first name : Text}
    (h : IsEnclosed (c :: line) [] first) :
    IsFirstPlaceholder (c :: line) name ↔ first = name := by
  constructor
  · rintro ⟨before, hname, hleast⟩
    have hbefore : before = [] := List.length_eq_zero_iff.1 (Nat.le_zero.1 (hleast [] first h))
    subst hbefore
    rw [← (isEnclosed_cons_nil_iff.1 h).2.2.1, ← (isEnclosed_cons_nil_iff.1 hname).2.2.1]
  · rintro rfl
    exact ⟨[], h, fun before' _ _ => Nat.zero_le before'.length⟩

/-- A first character that encloses nothing can be left out. -/
theorem isFirstPlaceholder_cons_of_not {c : Char} {line name : Text}
    (h : ∀ first, ¬IsEnclosed (c :: line) [] first) :
    IsFirstPlaceholder (c :: line) name ↔ IsFirstPlaceholder line name := by
  constructor
  · rintro ⟨before, hname, hleast⟩
    cases before with
    | nil => exact absurd hname (h name)
    | cons d before =>
      obtain ⟨rfl, hrest⟩ := isEnclosed_cons_cons.1 hname
      refine ⟨before, hrest, fun before' name' h' => ?_⟩
      have hle := hleast (c :: before') name' (isEnclosed_cons_cons.2 ⟨rfl, h'⟩)
      simpa using hle
  · rintro ⟨before, hname, hleast⟩
    refine ⟨c :: before, isEnclosed_cons_cons.2 ⟨rfl, hname⟩, fun before' name' h' => ?_⟩
    cases before' with
    | nil => exact absurd h' (h name')
    | cons d before' =>
      have hle := hleast before' name' (isEnclosed_cons_cons.1 h').2
      simpa using hle

namespace Step

/-- The scan stops at a first character that encloses something. -/
theorem placeholder?_cons_of_isEnclosed {c : Char} {line first : Text}
    (h : IsEnclosed (c :: line) [] first) : placeholder? (c :: line) = some first := by
  obtain ⟨rfl, hne, htake, hdrop⟩ := isEnclosed_cons_nil_iff.1 h
  obtain ⟨d, name, rfl⟩ := List.exists_cons_of_ne_nil hne
  obtain ⟨e, after, hafter⟩ := List.exists_cons_of_ne_nil hdrop
  rw [placeholder?, if_pos rfl, htake, hafter]

/-- The scan passes over a first character that encloses nothing. -/
theorem placeholder?_cons_of_not {c : Char} {line : Text}
    (h : ∀ first, ¬IsEnclosed (c :: line) [] first) :
    placeholder? (c :: line) = placeholder? line := by
  rw [placeholder?]
  split
  · rename_i hc
    split
    · rename_i d name e after htake hdrop
      refine absurd (isEnclosed_cons_nil_iff.2 ⟨hc, ?_, htake, ?_⟩) (h (d :: name))
      · exact List.cons_ne_nil d name
      · rw [hdrop]
        exact List.cons_ne_nil e after
    · rfl
  · rfl

/-- The scan finds the first placeholder. -/
theorem placeholder?_eq_some_iff {line name : Text} :
    placeholder? line = some name ↔ IsFirstPlaceholder line name := by
  induction line with
  | nil =>
    constructor
    · intro h
      cases h
    · rintro ⟨before, h, -⟩
      exact absurd h (not_isEnclosed_nil before name)
  | cons c line ih =>
    by_cases h : ∃ first, IsEnclosed (c :: line) [] first
    · obtain ⟨first, hfirst⟩ := h
      rw [placeholder?_cons_of_isEnclosed hfirst, isFirstPlaceholder_cons_of_isEnclosed hfirst,
        Option.some.injEq]
    · have hnone : ∀ first, ¬IsEnclosed (c :: line) [] first := fun first hf => h ⟨first, hf⟩
      rw [placeholder?_cons_of_not hnone, isFirstPlaceholder_cons_of_not hnone, ih]

end Step

/-! ## The parameters of a row -/

/-- A scenario of whose lines none opens a table has no examples. -/
theorem Scenario.examples_ofLines_of_forall {name : Text} {lines : List Line}
    (h : lines.any Line.isExamples = false) : (ofLines name lines).examples = .empty := by
  have hslices : (slicesAt Line.isExamples lines).length = 0 := by
    rw [length_slicesAt, List.countP_eq_zero]
    exact List.any_eq_false.1 h
  rw [ofLines, tablesOf, List.length_eq_zero_iff.1 hslices]
  rfl

/-- The row of a scenario has the examples of the scenario for parameters. -/
theorem bind_parameters_ofScenario {slice : List Text} {s : Scenario} (h : IsRecordOf slice s)
    (title header : Text) :
    (ExportRow.ofScenario title s).parameters.bind (·.get? header) = s.examples.get? header := by
  obtain ⟨name, lines, rfl, -⟩ := h.exists_tablesOf_eq
  rw [ExportRow.ofScenario]
  cases hany : lines.any Line.isExamples with
  | false =>
    have hhas : (Scenario.ofLines name lines).hasExamples = false := hany
    rw [hhas, Scenario.examples_ofLines_of_forall hany]
    rfl
  | true =>
    have hhas : (Scenario.ofLines name lines).hasExamples = true := hany
    rw [hhas, Bool.true_and]
    cases hempty : (Scenario.ofLines name lines).examples.isEmpty with
    | false => rfl
    | true =>
      have hnil : (Scenario.ofLines name lines).examples.toList = [] := by
        simpa [Entries.isEmpty] using hempty
      rw [Entries.get?, hnil]
      rfl

/-! ## The values that are tried -/

/-- A table of some rows below the header `name` is among the tables. -/
def HasColumn (tables : List ExampleTable) (name : Text) : Prop :=
  ∃ t ∈ tables, t.rows ≠ [] ∧ name ∈ t.headers

theorem mem_columnNames_iff {tables : List ExampleTable} {name : Text} :
    name ∈ columnNames tables ↔ HasColumn tables name := by
  simp only [columnNames, HasColumn, List.mem_eraseDups, List.mem_flatMap, List.mem_filter,
    Bool.not_eq_true', List.isEmpty_eq_false_iff]
  constructor
  · rintro ⟨t, ⟨ht, hrows⟩, hname⟩
    exact ⟨t, ht, hrows, hname⟩
  · rintro ⟨t, ht, hrows, hname⟩
    exact ⟨t, ⟨ht, hrows⟩, hname⟩

/-- The values of a column: its cells without the empty ones in front, each once and in order of
first appearance. -/
def valuesOf (tables : List ExampleTable) (name : Text) : List Text :=
  ((columnOf name tables).dropWhile List.isEmpty).eraseDups

theorem mem_valuesOf {tables : List ExampleTable} {name value : Text}
    (h : value ∈ columnOf name tables) (hne : value ≠ []) : value ∈ valuesOf tables name := by
  have hsplit := List.takeWhile_append_dropWhile (p := List.isEmpty) (l := columnOf name tables)
  rw [← hsplit] at h
  rcases List.mem_append.1 h with h | h
  · have hempty : value.isEmpty = true := List.mem_takeWhile_imp h
    exact absurd (List.isEmpty_iff.1 hempty) hne
  · exact List.mem_eraseDups.2 h

/-- The values are found again in the text that joins them, unless there is none. -/
theorem splitOn_joinWith_valuesOf {lines : List Text} {name : Text}
    (h : valuesOf (exampleTables lines) name ≠ []) :
    (joinWith '|' (valuesOf (exampleTables lines) name)).splitOn '|' =
      valuesOf (exampleTables lines) name := by
  apply splitOn_joinWith h
  intro value hvalue
  have hcell := (List.dropWhile_sublist _).subset (List.mem_eraseDups.1 hvalue)
  exact not_mem_of_mem_columnOf hcell

/-- The row of a step tries the values of the step's first placeholder. -/
structure TriesValues (tables : List ExampleTable) (line : Text) (row : List Text) : Prop where
  /-- Where no table has a column for the placeholder, or there is none, nothing is tried. -/
  nothing : (∀ name, IsFirstPlaceholder line name → ¬HasColumn tables name) →
    row[Column.testInput.index]? = some []
  /-- The values of the column for the placeholder are joined by `|`. -/
  values : ∀ name, IsFirstPlaceholder line name → HasColumn tables name →
    row[Column.testInput.index]? = some (joinWith '|' (valuesOf tables name))
  /-- The values can be told apart again: none of them is lost, and none is there twice. -/
  listed : ∀ name input, IsFirstPlaceholder line name → HasColumn tables name →
    row[Column.testInput.index]? = some input →
      (input.splitOn '|').Nodup ∧
        ∀ value ∈ columnOf name tables, value ≠ [] → value ∈ input.splitOn '|'

namespace Step

variable {slice : List Text} {s : Scenario} {line name : Text}

/-- Without a placeholder, or without a column for it, the test input is empty. -/
theorem testInput_eq_nil (h : IsRecordOf slice s) (title : Text)
    (hline : ∀ name, IsFirstPlaceholder line name → ¬HasColumn (exampleTables slice) name) :
    testInput line (ExportRow.ofScenario title s).parameters = [] := by
  rw [testInput]
  cases hp : placeholder? line with
  | none => rfl
  | some name =>
    have hcol := hline name (placeholder?_eq_some_iff.1 hp)
    have hexamples := collectsExamples_of_isRecordOf h
    have hget : s.examples.get? name = none := by
      rw [hexamples.get?_eq, hexamples.keys_eq, if_neg (mt mem_columnNames_iff.1 hcol)]
    rw [Option.bind_some, bind_parameters_ofScenario h, hget]

/-- The test input joins the values of the column that the placeholder names. -/
theorem testInput_eq_joinWith (h : IsRecordOf slice s) (title : Text)
    (hname : IsFirstPlaceholder line name) (hcol : HasColumn (exampleTables slice) name) :
    testInput line (ExportRow.ofScenario title s).parameters =
      joinWith '|' (valuesOf (exampleTables slice) name) := by
  have hexamples := collectsExamples_of_isRecordOf h
  have hget : s.examples.get? name =
      some (joinColumn (columnOf name (exampleTables slice))) := by
    rw [hexamples.get?_eq, hexamples.keys_eq, if_pos (mem_columnNames_iff.2 hcol)]
  rw [testInput, placeholder?_eq_some_iff.2 hname, Option.bind_some,
    bind_parameters_ofScenario h, hget]
  show joinWith '|' ((joinColumn _).splitOn '|').eraseDups = _
  by_cases hvalue : joinColumn (columnOf name (exampleTables slice)) = []
  · -- a column of empty cells is cut into one empty value
    rw [hvalue, valuesOf, joinColumn_eq_nil_iff.1 hvalue]
    rfl
  · rw [hexamples.splitOn_eq name _ hget hvalue, valuesOf]

end Step

theorem triesValues_stepRow {slice : List Text} {s : Scenario} (h : IsRecordOf slice s)
    (config : SheetConfig) (title : Text) (index : Nat) (line : Text) (cells : Step.Cells) :
    TriesValues (exampleTables slice) line
      (stepRow config (ExportRow.ofScenario title s).parameters index line cells) where
  nothing hline := congrArg some (Step.testInput_eq_nil h title hline)
  values name hname hcol := congrArg some (Step.testInput_eq_joinWith h title hname hcol)
  listed name input hname hcol hinput := by
    have hvalue := congrArg some (Step.testInput_eq_joinWith h title hname hcol)
    obtain rfl : joinWith '|' (valuesOf (exampleTables slice) name) = input :=
      Option.some.inj (hvalue.symm.trans hinput)
    by_cases hnil : valuesOf (exampleTables slice) name = []
    · -- every cell is empty, and nothing joined is cut into one empty value
      rw [hnil]
      refine ⟨by simp [List.splitOn_nil], fun value hmem hne => ?_⟩
      have hmem := mem_valuesOf hmem hne
      rw [hnil] at hmem
      cases hmem
    · rw [splitOn_joinWith_valuesOf hnil]
      exact ⟨nodup_eraseDups _, fun value hmem hne => mem_valuesOf hmem hne⟩

/-- **Steps are tried with the values of their columns.** Slice by slice, scenario by scenario and
step by step, the test input of a document's sheets lists the values of the step's first
placeholder in the example tables of the slice. -/
theorem testInput_convert (config : SheetConfig) (text : Text) :
    (slicesAt Line.opensScenario text.lines).length = (Feature.parse text).scenarios.length ∧
      List.Forall₂ (fun told sheet =>
          List.Forall₂ (TriesValues (exampleTables told.1)) told.2.steps sheet.stepRows)
        ((slicesAt Line.opensScenario text.lines).zip (Feature.parse text).scenarios)
        (convert config text).sheets := by
  have hrecords := Feature.forall₂_isRecordOf text
  refine ⟨hrecords.length_eq, forall₂_zip_left hrecords ?_⟩
  refine forall₂_sheets_convert config text fun s hs name slice hslice => ?_
  rw [stepRows_ofRow_ofScenario config name _ fun _ => isStepLine_of_mem_steps hs]
  refine forall₂_stepRowsFrom (fun line _ index group => ?_) 0 none
  exact triesValues_stepRow hslice config _ index line _

/-- Of two brackets that open, the first one counts; an empty cell in front is left out, and a
value that comes again is not listed again. -/
example :
    (convert .standard ("Scenario: S\nGiven <> <<a>\nExamples:\n|<a|\n||\n|2|\n||\n".toList ++
        "Examples:\n|b|<a|\n|9|2|\n|9|1|".toList)).sheets.map
        (fun sheet => sheet.cell? 0 .testInput) =
      [some "2||1".toList] := by
  decide +kernel

end FeatureSheets
