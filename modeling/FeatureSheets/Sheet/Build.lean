import FeatureSheets.Config
import FeatureSheets.Row
import FeatureSheets.Sheet.Basic
import FeatureSheets.Sheet.Name
import FeatureSheets.Sheet.Step

/-!
# Building sheets

One sheet per export row, in order: the headers, then a row for each step line that is not blank.
The metadata of the configuration stand on the first step row alone.
-/

namespace FeatureSheets

/-- The name of the step at `index`. -/
def stepNumber (index : Nat) : Text :=
  "Step ".toList ++ Text.ofNat (index + 1)

/-- The row of the step at `index`. -/
def stepRow (config : SheetConfig) (parameters : Option Entries) (index : Nat) (line : Text)
    (cells : Step.Cells) : List Text :=
  let once (value : Text) : Text := if index = 0 then value else []
  [line, stepNumber index, cells.label, cells.description, cells.expected,
    Step.testInput line parameters, once config.subject, [], once config.testType,
    once config.status, once config.designer]

/-- The rows of step lines from `index` on, when the group `group` is open before them. -/
def stepRowsFrom (config : SheetConfig) (parameters : Option Entries) :
    (index : Nat) → (group : Option Keyword) → List Text → List (List Text)
  | _, _, [] => []
  | index, group, line :: rest =>
    stepRow config parameters index line (Step.cells group line) ::
      stepRowsFrom config parameters (index + 1) (Step.groupAfter group line) rest

theorem length_stepRow (config : SheetConfig) (parameters : Option Entries) (index : Nat)
    (line : Text) (cells : Step.Cells) :
    (stepRow config parameters index line cells).length = 11 :=
  rfl

/-- Every step line has a row. -/
theorem length_stepRowsFrom (config : SheetConfig) (parameters : Option Entries) (index : Nat)
    (group : Option Keyword) (lines : List Text) :
    (stepRowsFrom config parameters index group lines).length = lines.length := by
  induction lines generalizing index group with
  | nil => rfl
  | cons line rest ih => simp [stepRowsFrom, ih]

/-- The step lines of a row that become rows of its sheet. -/
def ExportRow.writtenSteps (r : ExportRow) : List Text :=
  r.stepLines.filter fun line => !Text.isBlankText line

/-- The sheet of a row. -/
def Sheet.ofRow (config : SheetConfig) (name : Text) (r : ExportRow) : Sheet where
  name := name
  rows := Column.headers :: stepRowsFrom config r.parameters 0 none r.writtenSteps

/-- The sheets of rows, one each in order. -/
def buildSheets (config : SheetConfig) (rows : List ExportRow) : List Sheet :=
  (SheetName.names config.nameLimit (rows.map ExportRow.sheetName)).zipWith
    (Sheet.ofRow config) rows

/-- Every row has a sheet. -/
theorem length_buildSheets (config : SheetConfig) (rows : List ExportRow) :
    (buildSheets config rows).length = rows.length := by
  simp [buildSheets, SheetName.length_names]

end FeatureSheets
