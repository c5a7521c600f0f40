import FeatureSheets.Proofs.Export.Write
import FeatureSheets.Proofs.Sheet.StepRows

/-!
# The shape of sheets

Every sheet has the headers and below them one row for each step line of its row that is not
blank, numbered from 1 without gaps, with the metadata on the first of them alone
(`sheets_have_shape`). The row at a position is that of the line there, after the group that the
lines before it leave open (`getElem?_stepRowsFrom`). As all rows have eleven cells, a sheet that
is written as comma-separated values is refused for nothing but its file.
-/

namespace FeatureSheets

/-! ## Rows by their position -/

/-- The row at a position is the row of the line there, after the group that is open there. -/
theorem getElem?_stepRowsFrom (config : SheetConfig) (parameters : Option Entries) (index : Nat)
    (group : Option Keyword) (lines : List Text) (i : Nat) :
    (stepRowsFrom config parameters index group lines)[i]? = lines[i]?.map fun line =>
      stepRow config parameters (index + i) line
        (Step.cells ((lines.take i).foldl Step.groupAfter group) line) := by
  induction lines generalizing index group i with
  | nil => rfl
  | cons line rest ih =>
    cases i with
    | zero => rfl
    | succ i =>
      rw [stepRowsFrom, List.getElem?_cons_succ, ih, List.getElem?_cons_succ, List.take_succ_cons,
        List.foldl_cons, Nat.add_right_comm, Nat.add_assoc]

theorem stepCount_ofRow (config : SheetConfig) (name : Text) (r : ExportRow) :
    (Sheet.ofRow config name r).stepCount = r.writtenSteps.length :=
  length_stepRowsFrom ..

/-- A cell of a sheet is one of the row of the line at its position. -/
theorem cell?_ofRow (config : SheetConfig) (name : Text) (r : ExportRow) (i : Nat) (c : Column) :
    (Sheet.ofRow config name r).cell? i c = r.writtenSteps[i]?.bind fun line =>
      (stepRow config r.parameters i line
        (Step.cells ((r.writtenSteps.take i).foldl Step.groupAfter none) line))[c.index]? := by
  have hrow := getElem?_stepRowsFrom config r.parameters 0 none r.writtenSteps i
  rw [Nat.zero_add] at hrow
  rw [Sheet.cell?, Sheet.stepRows, Sheet.ofRow, List.tail_cons, hrow, Option.bind_map]
  rfl

/-! ## The shape -/

/-- The columns that are filled from the configuration, each with its text. -/
def SheetConfig.metadata (config : SheetConfig) : List (Column × Text) :=
  [(.subject, config.subject), (.testType, config.testType), (.status, config.status),
    (.designer, config.designer)]

/-- The shape that a sheet has for its row. -/
structure IsShaped (config : SheetConfig) (r : ExportRow) (sheet : Sheet) : Prop where
  /-- The headers are on top. -/
  rows_eq : sheet.rows = Column.headers :: sheet.stepRows
  /-- All rows have eleven cells. -/
  width : ∀ row ∈ sheet.rows, row.length = 11
  /-- Below the headers there is a row for each line that is not blank, in order, and the line
  stands in its first column as it is. -/
  stepText : (sheet.stepRows.map fun row => row[Column.stepText.index]?) =
    ((r.steps.splitOn '\n').filter fun line => !Text.isBlankText line).map some
  /-- The rows are numbered from 1. -/
  stepName : ∀ i < sheet.stepCount,
    sheet.cell? i .stepName = some ("Step ".toList ++ Text.ofNat (i + 1))
  /-- The metadata stand in the first row, and nowhere below it. -/
  metadata : ∀ i < sheet.stepCount, ∀ m ∈ config.metadata,
    sheet.cell? i m.1 = some (if i = 0 then m.2 else [])
  /-- The name of the test is left open. -/
  testName : ∀ i < sheet.stepCount, sheet.cell? i .testName = some []

theorem isShaped_ofRow (config : SheetConfig) (name : Text) (r : ExportRow) :
    IsShaped config r (Sheet.ofRow config name r) := by
  -- each row is made from its line, whatever the lines before say of its other cells
  have hcell : ∀ i < (Sheet.ofRow config name r).stepCount, ∃ line cells, ∀ c : Column,
      (Sheet.ofRow config name r).cell? i c =
        (stepRow config r.parameters i line cells)[c.index]? := by
    intro i hi
    rw [stepCount_ofRow] at hi
    refine ⟨r.writtenSteps[i],
      Step.cells ((r.writtenSteps.take i).foldl Step.groupAfter none) r.writtenSteps[i],
      fun c => ?_⟩
    rw [cell?_ofRow, List.getElem?_eq_getElem hi]
    rfl
  constructor
  case rows_eq => rfl
  case width =>
    intro row hrow
    rcases List.mem_cons.1 hrow with rfl | hrow
    · rfl
    · exact length_of_mem_stepRowsFrom hrow
  case stepText => exact map_stepText_stepRowsFrom ..
  case stepName =>
    intro i hi
    obtain ⟨line, cells, hcells⟩ := hcell i hi
    exact hcells .stepName
  case metadata =>
    intro i hi m hm
    obtain ⟨line, cells, hcells⟩ := hcell i hi
    rw [hcells]
    simp only [SheetConfig.metadata, List.mem_cons, List.not_mem_nil, or_false] at hm
    rcases hm with rfl | rfl | rfl | rfl <;> rfl
  case testName =>
    intro i hi
    obtain ⟨line, cells, hcells⟩ := hcell i hi
    exact hcells .testName

/-- A sheet whose rows have as many cells as the first is refused for its file alone. -/
theorem failsWith_writeCsv_of_isRectangular {s : Sheet} (h : Csv.IsRectangular s.rows) (p : Path) :
    (s.writeCsv p : Operation Session Unit).FailsWith fun e => ∃ fault, e = .sheetFile p fault := by
  have hfault : ∀ f, ∃ fault, Error.sheetFile p f = .sheetFile p fault := fun f => ⟨f, rfl⟩
  rw [Sheet.writeCsv]
  simp only [Csv.write_of_isRectangular h]
  exact (Operation.failsWith_ask hfault _).bind fun _ => Operation.failsWith_lift _

/-- **Every sheet has its shape.** Rows have one sheet each, in order, and each sheet has the shape
for its row. So none of them is refused for its cells when it is written to a file. -/
theorem sheets_have_shape (config : SheetConfig) (rows : List ExportRow) :
    List.Forall₂ (IsShaped config) rows (buildSheets config rows) ∧
      ∀ s ∈ buildSheets config rows, ∀ p : Path, (s.writeCsv p : Operation Session Unit).FailsWith
        fun e => ∃ fault, e = .sheetFile p fault := by
  constructor
  · exact forall₂_zipWith_right (by simp [SheetName.length_names])
      fun r _ name => isShaped_ofRow config name r
  · exact fun s hs p => failsWith_writeCsv_of_isRectangular (isRectangular_of_mem_buildSheets hs) p

end FeatureSheets
