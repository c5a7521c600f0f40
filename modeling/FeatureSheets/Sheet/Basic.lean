import FeatureSheets.Sheet.Column

/-!
# Sheets

A sheet is a named table of texts. Its first row holds the headers and every other row a step.
-/

namespace FeatureSheets

/-- A named table. -/
structure Sheet where
  /-- The name. -/
  name : Text
  /-- The headers, then one row per step. -/
  rows : List (List Text)
  deriving DecidableEq

namespace Sheet

/-- The first row; no cells where there is no row. -/
def header (s : Sheet) : List Text :=
  s.rows.headD []

/-- The rows below the first. -/
def stepRows (s : Sheet) : List (List Text) :=
  s.rows.tail

/-- The number of rows below the first. -/
def stepCount (s : Sheet) : Nat :=
  s.stepRows.length

/-- The position of a header in the first row. -/
def columnIndex? (s : Sheet) (h : Text) : Option Nat :=
  s.header.findIdx? (· == h)

/-- The cell of a step row, counted from 0 below the headers. -/
def cell? (s : Sheet) (step : Nat) (c : Column) : Option Text :=
  s.stepRows[step]?.bind (·[c.index]?)

end Sheet

end FeatureSheets
