import FeatureSheets.Feature.Reader

/-!
# Export rows

One row per scenario: the scenario as it is handed on to be tabulated, its steps in one text.
-/

namespace FeatureSheets

/-- A scenario ready to be tabulated. -/
structure ExportRow where
  /-- The title of the document. -/
  feature : Text
  /-- The title of the scenario. -/
  scenario : Text
  /-- The step lines, joined by line feeds. -/
  steps : Text
  /-- The collected example values, if there are any. -/
  parameters : Option Entries
  /-- The sheet name that the title asks for. -/
  sheetName : Text
  deriving DecidableEq

/-- The sheet name that a title asks for: what stands before the first `-`, trimmed. -/
def sheetNameFor (title : Text) : Text :=
  Text.trim (title.takeWhile (· != '-'))

namespace ExportRow

/-- The row of a scenario. -/
def ofScenario (title : Text) (s : Scenario) : ExportRow where
  feature := title
  scenario := s.name
  steps := Text.joinWith '\n' s.steps
  parameters := if s.hasExamples && !s.examples.isEmpty then some s.examples else none
  sheetName := sheetNameFor s.name

/-- The collected value of a placeholder. -/
def parameter? (r : ExportRow) (name : Text) : Option Text :=
  r.parameters.bind (·.get? name)

/-- The step lines one by one; a row without steps has one empty line. -/
def stepLines (r : ExportRow) : List Text :=
  r.steps.lines

end ExportRow

/-- The rows of a document, one per scenario in order. -/
def Feature.rows (f : Feature) : List ExportRow :=
  f.scenarios.map (ExportRow.ofScenario f.title)

end FeatureSheets
