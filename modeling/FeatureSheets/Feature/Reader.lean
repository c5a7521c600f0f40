import FeatureSheets.Error
import FeatureSheets.Feature.Basic
import FeatureSheets.Feature.Line
import FeatureSheets.Log.Note

/-!
# Reading a document

A document is read in one pass over its lines, and reading never fails. A scenario collects steps
until its first `Examples:` line and table rows from there on; the first row of a table that has
a cell names the headers, and every later row is data. `Feature.parse` is the whole pass.

While a document is read there is something to say about each scenario that begins, each table of a
scenario, and each table row that is not framed by pipes (`Feature.notes`).
-/

namespace FeatureSheets

/-- What the lines to come may add to. -/
inductive Collecting where
  /-- No scenario has begun. -/
  | nothing
  /-- The steps of a scenario. -/
  | steps (scenario : Scenario)
  /-- The table of a scenario, below these headers; no headers before the first row. -/
  | table (scenario : Scenario) (headers : List Text)
  deriving DecidableEq

namespace Collecting

/-- The scenario that is being collected. -/
def scenario? : Collecting → Option Scenario
  | .nothing => none
  | .steps s | .table s _ => some s

/-- An `Examples:` line: the scenario, if there is one, turns to a new table. -/
def openTable (c : Collecting) : Collecting :=
  match c.scenario? with
  | some s => .table { s with hasExamples := true } []
  | none => .nothing

/-- A step line adds a step, where steps are collected. -/
def addStep (c : Collecting) (line : Text) : Collecting :=
  match c with
  | .steps s => .steps (s.addStep line)
  | c => c

/-- A table row gives the headers or the data, where a table is collected. -/
def addRow (c : Collecting) (line : Text) : Collecting :=
  match c with
  | .table s [] => .table s (TableRow.cells line)
  | .table s headers => .table (s.addRow headers (TableRow.cells line)) headers
  | c => c

end Collecting

/-- The state of reading between two lines. -/
structure Reader where
  /-- The title so far. -/
  title : Text
  /-- The scenarios that are complete. -/
  finished : List Scenario
  /-- What is being collected. -/
  collecting : Collecting
  deriving DecidableEq

namespace Reader

/-- The state before the first line. -/
def start : Reader :=
  ⟨[], [], .nothing⟩

/-- All scenarios so far. -/
def scenarios (r : Reader) : List Scenario :=
  r.finished ++ r.collecting.scenario?.toList

/-- Takes in one line. -/
def feed (r : Reader) : Line → Reader
  | .feature title => { r with title }
  | .scenario name =>
    { r with finished := r.scenarios, collecting := .steps (.named name) }
  | .examples => { r with collecting := r.collecting.openTable }
  | .step line => { r with collecting := r.collecting.addStep line }
  | .row line => { r with collecting := r.collecting.addRow line }
  | .silent => r

/-- Takes in lines in turn. -/
def feedAll (r : Reader) (lines : List Line) : Reader :=
  lines.foldl feed r

/-- Lines may be taken in by parts. -/
theorem feedAll_append (r : Reader) (before after : List Line) :
    r.feedAll (before ++ after) = (r.feedAll before).feedAll after :=
  List.foldl_append

/-- What the lines so far say. -/
def result (r : Reader) : Feature :=
  ⟨r.title, r.scenarios⟩

end Reader

namespace Feature

/-- The lines of a document, read one by one. -/
def linesOf (text : Text) : List Line :=
  text.lines.map Line.read

/-- Reads a document. -/
def parse (text : Text) : Feature :=
  (Reader.start.feedAll (linesOf text)).result

/-- The text of a document given in bytes, without a byte-order mark in front; `source` names the
document in an error. -/
def decode (source : Text) (bytes : List UInt8) : Except Error Text :=
  match Text.Utf8.decode (Text.Utf8.dropMark bytes) with
  | .ok text => .ok text
  | .error fault => .error (.malformedInput source fault)

/-- Reads a document given in bytes. -/
def parseBytes (source : Text) (bytes : List UInt8) : Except Error Feature :=
  (decode source bytes).map parse

end Feature

/-! ## Notes -/

/-- What there is to say about a line that is taken in next. -/
def Reader.notesOn (r : Reader) : Line → List Note
  | .scenario name => [⟨.debug, .feature, "scenario '".toList ++ name ++ ['\'']⟩]
  | .examples =>
    match r.collecting.scenario? with
    | some s => [⟨.debug, .feature, "examples block in scenario '".toList ++ s.name ++ ['\'']⟩]
    | none => []
  | .row line =>
    match r.collecting with
    | .table .. =>
      if TableRow.isFramed (TableRow.rawCells line) then []
      else [⟨.warn, .feature,
        "unframed example row '".toList ++ line ++ "', keeping all cells".toList⟩]
    | _ => []
  | _ => []

/-- What there is to say about lines taken in from a state on. -/
def Reader.notesOnAll (r : Reader) : List Line → List Note
  | [] => []
  | line :: rest => r.notesOn line ++ (r.feed line).notesOnAll rest

/-- What there is to say about a document. -/
def Feature.notes (text : Text) : List Note :=
  Reader.start.notesOnAll (linesOf text)

end FeatureSheets
