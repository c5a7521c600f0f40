import FeatureSheets.Keyword

/-!
# Lines of a document

What one line says on its own, whatever surrounds it. A line is looked at without its margins;
blank lines, comments, tags and free text say nothing.

A row of an example table is cut at its pipes and each cell is trimmed. The empty cells outside
the outer pipes are dropped when both are there; a row without its closing pipe keeps every cell.
-/

namespace FeatureSheets

/-- The meaning of one line. -/
inductive Line where
  /-- `Feature:` and a title. -/
  | feature (title : Text)
  /-- `Scenario:` or `Scenario Outline:` and a title. -/
  | scenario (title : Text)
  /-- `Examples:`. -/
  | examples
  /-- A step: the whole line, which begins with a keyword. -/
  | step (line : Text)
  /-- A table row: the whole line, which begins with `|`. -/
  | row (line : Text)
  /-- A line that says nothing. -/
  | silent
  deriving DecidableEq, Repr

namespace Line

/-- The words that open the title of a document. -/
def featureWord : Text := "Feature:".toList

/-- The words that open a scenario. -/
def scenarioWords : List Text := ["Scenario:".toList, "Scenario Outline:".toList]

/-- The word that opens an example table. -/
def examplesWord : Text := "Examples:".toList

/-- Reads a line from which the margins are gone. -/
def ofTrimmed (line : Text) : Line :=
  match line with
  | [] => .silent
  | c :: _ =>
    if c = '#' then .silent
    else if let some title := Text.after? featureWord line then .feature (Text.trim title)
    else if let some title := Text.afterAny? scenarioWords line then .scenario (Text.trim title)
    else if (Text.after? examplesWord line).isSome then .examples
    else if (Keyword.split? line).isSome then .step line
    else if c = '|' then .row line
    else .silent

/-- Reads a line as it stands in the document. -/
def read (line : Text) : Line :=
  ofTrimmed (Text.trimLine line)

end Line

/-! ## Table rows -/

namespace TableRow

/-- What stands between the pipes of a row, trimmed. -/
def rawCells (line : Text) : List Text :=
  (line.splitOn '|').map Text.trim

/-- Whether a row's first and last cells are empty, as they are outside a frame of pipes. -/
def isFramed (cells : List Text) : Bool :=
  decide (2 ≤ cells.length) && cells.head? == some [] && cells.getLast? == some []

/-- The cells of a row. -/
def cells (line : Text) : List Text :=
  let raw := rawCells line
  if isFramed raw then raw.tail.dropLast else raw

end TableRow

end FeatureSheets
