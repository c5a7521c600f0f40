import FeatureSheets.Json.Sheet
import FeatureSheets.Text.Utf8

/-!
# Workbooks

A converted document for a host program that hands in the bytes of a text and takes out single
values by position. A text that is handed in ends before its first zero byte, and a text that is
taken out may not hold the character NUL.
-/

namespace FeatureSheets

/-- A converted document. -/
structure Workbook where
  /-- The title of the document. -/
  featureName : Text
  /-- The sheets in order. -/
  sheets : List Sheet
  deriving DecidableEq

/-- A text that the host can take out: one without the character NUL. -/
def hostText? (s : Text) : Option Text :=
  if s.contains '\x00' then none else some s

namespace Workbook

/-- Converts the document that begins a memory area and ends before its first zero byte, unless
it is not UTF-8. -/
def ofBytes? (memory : List UInt8) : Option Workbook :=
  match Text.Utf8.decode (memory.takeWhile (· != 0)) with
  | .ok text =>
    let c := convert SheetConfig.standard text
    some ⟨c.featureName, c.sheets⟩
  | .error _ => none

/-- The title. -/
def featureName? (w : Workbook) : Option Text :=
  hostText? w.featureName

/-- The number of sheets. -/
def sheetCount (w : Workbook) : Nat :=
  w.sheets.length

/-- The name of a sheet. -/
def sheetName? (w : Workbook) (sheet : Nat) : Option Text :=
  w.sheets[sheet]?.bind fun s => hostText? s.name

/-- The number of rows of a sheet, its headers included; 0 where there is no such sheet. -/
def rowCount (w : Workbook) (sheet : Nat) : Nat :=
  (w.sheets[sheet]?.map (·.rows.length)).getD 0

/-- A cell; row 0 holds the headers. -/
def cell? (w : Workbook) (sheet row col : Nat) : Option Text :=
  w.sheets[sheet]?.bind fun s => s.rows[row]?.bind fun r => r[col]?.bind hostText?

/-- All sheets as JSON on one line. -/
def json? (w : Workbook) : Option Text :=
  hostText? (toJson w.sheets).compact

end Workbook

/-- What a host may ask a workbook. -/
inductive WorkbookQuery where
  /-- The title. -/
  | featureName
  /-- The number of sheets. -/
  | sheetCount
  /-- The name of a sheet. -/
  | sheetName (sheet : Nat)
  /-- The number of rows of a sheet. -/
  | rowCount (sheet : Nat)
  /-- A cell of a sheet. -/
  | cell (sheet row col : Nat)
  /-- All sheets as JSON. -/
  | json
  deriving DecidableEq, Repr

/-- The answer to a query. -/
inductive WorkbookAnswer where
  /-- A text, or none. -/
  | text (s : Option Text)
  /-- A number. -/
  | count (n : Nat)
  deriving DecidableEq, Repr

/-- Answers a query. Without a workbook there is no text, and every count is 0. -/
def WorkbookQuery.answer (w : Option Workbook) : WorkbookQuery → WorkbookAnswer
  | .featureName => .text (w.bind Workbook.featureName?)
  | .sheetCount => .count ((w.map Workbook.sheetCount).getD 0)
  | .sheetName sheet => .text (w.bind (·.sheetName? sheet))
  | .rowCount sheet => .count ((w.map (·.rowCount sheet)).getD 0)
  | .cell sheet row col => .text (w.bind (·.cell? sheet row col))
  | .json => .text (w.bind Workbook.json?)

end FeatureSheets
