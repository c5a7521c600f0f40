import FeatureSheets.Entries

/-!
# Features and scenarios

What a feature document says: a title and scenarios in the order of the document. A scenario has
its step lines as written, and the values of its example tables collected per header.
-/

namespace FeatureSheets

/-- One scenario of a document. -/
structure Scenario where
  /-- The title, trimmed. -/
  name : Text
  /-- The step lines with their keywords, placeholders as written. -/
  steps : List Text
  /-- The values below each header of the example tables, joined by `|`. -/
  examples : Entries
  /-- Whether an `Examples:` line was seen, even one without a table. -/
  hasExamples : Bool
  deriving DecidableEq

namespace Scenario

/-- A scenario of which only the title is known. -/
def named (name : Text) : Scenario :=
  ⟨name, [], .empty, false⟩

/-- The scenario with one more step. -/
def addStep (s : Scenario) (step : Text) : Scenario :=
  { s with steps := s.steps ++ [step] }

/-- The collected value of a header after one more cell: an empty value is replaced, any other is
extended by `|` and the cell. -/
def joinCell (cell : Text) : Option Text → Text
  | none | some [] => cell
  | some value => value ++ '|' :: cell

/-- Collects a data row: each header takes the cell below it, an empty one where the row is too
short. Cells beyond the headers are dropped. -/
def addRow (s : Scenario) (headers cells : List Text) : Scenario :=
  { s with
    examples := headers.zipIdx.foldl
      (fun e h => e.alter h.1 (joinCell (cells[h.2]?.getD []))) s.examples }

end Scenario

/-- What a document says. -/
structure Feature where
  /-- The text of the last `Feature:` line, or nothing. -/
  title : Text
  /-- The scenarios in the order of the document. -/
  scenarios : List Scenario
  deriving DecidableEq

namespace Feature

/-- The number of scenarios. -/
def scenarioCount (f : Feature) : Nat :=
  f.scenarios.length

/-- The first scenario with this title. -/
def find? (f : Feature) (name : Text) : Option Scenario :=
  f.scenarios.find? fun s => s.name == name

end Feature

end FeatureSheets
