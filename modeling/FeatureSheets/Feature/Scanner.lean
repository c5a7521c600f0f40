import FeatureSheets.Feature.Reader

/-!
# Scanning line by line

The pass over a document with its parts held apart: what is collected, the scenario it is
collected for, and the headers of its table. Each of them changes on its own, and a line is looked
at with the mode in hand. So a scanner might be collecting steps without a scenario, and wherever
something is added it asks whether there is one. `Reader` is the same pass with a state for each
case.
-/

namespace FeatureSheets

/-- What a scanner collects. -/
inductive ScanMode where
  /-- Nothing. -/
  | nothing
  /-- The steps of a scenario. -/
  | steps
  /-- The rows of a table. -/
  | table
  deriving DecidableEq, Repr

/-- The state of scanning between two lines. -/
structure Scanner where
  /-- What is being collected. -/
  mode : ScanMode
  /-- The title so far. -/
  title : Text
  /-- The scenarios that are complete. -/
  finished : List Scenario
  /-- The scenario that is not. -/
  current : Option Scenario
  /-- The headers of the table, or of an earlier one. -/
  headers : List Text
  deriving DecidableEq

namespace Scanner

/-- The state before the first line. -/
def start : Scanner :=
  ⟨.nothing, [], [], none, []⟩

/-- All scenarios so far. -/
def records (s : Scanner) : List Scenario :=
  s.finished ++ s.current.toList

/-- Completes the current scenario and turns to the next. The headers stay as they are. -/
def startScenario (s : Scanner) (name : Text) : Scanner :=
  { s with finished := s.records, current := some (.named name), mode := .steps }

/-- Turns to a table of the current scenario, if there is one. -/
def openTable (s : Scanner) : Scanner :=
  match s.current with
  | some r =>
    { s with current := some { r with hasExamples := true }, mode := .table, headers := [] }
  | none => s

/-- Adds a step to the current scenario, if there is one. -/
def addStep (s : Scanner) (line : Text) : Scanner :=
  match s.current with
  | some r => { s with current := some (r.addStep line) }
  | none => s

/-- Takes a row for the headers if there are none, and otherwise adds it to the current scenario, if
there is one. -/
def addRow (s : Scanner) (line : Text) : Scanner :=
  if s.headers = [] then { s with headers := TableRow.cells line }
  else match s.current with
    | some r => { s with current := some (r.addRow s.headers (TableRow.cells line)) }
    | none => s

/-- Takes in one line from which the margins are gone. -/
def feed (s : Scanner) (line : Text) : Scanner :=
  match line with
  | [] => s
  | c :: _ =>
    if c = '#' then s
    else if let some title := Text.after? Line.featureWord line then
      { s with title := Text.trim title }
    else if let some name := Text.afterAny? Line.scenarioWords line then
      s.startScenario (Text.trim name)
    else if (Text.after? Line.examplesWord line).isSome then s.openTable
    else if c = '@' then s
    else match s.mode with
      | .nothing => s
      | .steps => if (Keyword.split? line).isSome then s.addStep line else s
      | .table => if c = '|' then s.addRow line else s

/-- Takes in lines in turn. -/
def feedAll (s : Scanner) (lines : List Text) : Scanner :=
  lines.foldl feed s

/-- The state after some lines, each taken in without its margins. -/
def ofLines (lines : List Text) : Scanner :=
  start.feedAll (lines.map Text.trimLine)

end Scanner

end FeatureSheets
