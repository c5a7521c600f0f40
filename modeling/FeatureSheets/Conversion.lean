import FeatureSheets.Sheet.Build

/-!
# Conversion

A document's text to its sheets: `convert` reads the document, makes its rows and builds their
sheets.
-/

namespace FeatureSheets

/-- What becomes of one document. -/
structure Conversion where
  /-- The title of the document. -/
  featureName : Text
  /-- One row per scenario. -/
  rows : List ExportRow
  /-- One sheet per row. -/
  sheets : List Sheet
  deriving DecidableEq

namespace Conversion

/-- The conversion of a document that has been read. -/
def ofFeature (config : SheetConfig) (f : Feature) : Conversion where
  featureName := f.title
  rows := f.rows
  sheets := buildSheets config f.rows

/-- The number of steps on all sheets. -/
def totalSteps (c : Conversion) : Nat :=
  c.sheets.foldl (fun n sheet => n + sheet.stepCount) 0

/-- Whether the document had no scenario. -/
def isEmpty (c : Conversion) : Bool :=
  c.rows.isEmpty

end Conversion

/-- Converts the text of a document. -/
def convert (config : SheetConfig) (text : Text) : Conversion :=
  .ofFeature config (Feature.parse text)

end FeatureSheets
