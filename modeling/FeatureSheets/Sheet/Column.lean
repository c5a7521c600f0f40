import FeatureSheets.Text.Basic

/-!
# Columns

The eleven columns of a sheet, from left to right, and the text at the head of each.
-/

namespace FeatureSheets

/-- A column of a sheet. -/
inductive Column where
  /-- The step line as written. -/
  | stepText
  /-- The number of the step. -/
  | stepName
  /-- The keyword of the step. -/
  | gwt
  /-- What is done. -/
  | description
  /-- What is expected. -/
  | expected
  /-- The values to try. -/
  | testInput
  /-- The folder of the test. -/
  | subject
  /-- The name of the test. -/
  | testName
  /-- The type of the test. -/
  | testType
  /-- The status of the test. -/
  | status
  /-- Who designed the test. -/
  | designer
  deriving DecidableEq, Repr

namespace Column

/-- The columns from left to right. -/
def all : List Column :=
  [.stepText, .stepName, .gwt, .description, .expected, .testInput, .subject, .testName,
    .testType, .status, .designer]

/-- The position of a column, from 0. -/
def index : Column → Nat
  | .stepText => 0
  | .stepName => 1
  | .gwt => 2
  | .description => 3
  | .expected => 4
  | .testInput => 5
  | .subject => 6
  | .testName => 7
  | .testType => 8
  | .status => 9
  | .designer => 10

/-- The text at the head of a column; the first column has none. -/
def header : Column → Text
  | .stepText => []
  | .stepName => "Step Name (Design Steps)".toList
  | .gwt => "GWT (Design Steps)".toList
  | .description => "Description (Design Steps)".toList
  | .expected => "Expected (Design Steps)".toList
  | .testInput => "Test input (Design Steps)".toList
  | .subject => "Subject".toList
  | .testName => "Test Name".toList
  | .testType => "Type".toList
  | .status => "Status".toList
  | .designer => "Designer".toList

/-- The column with this header. -/
def ofHeader? (h : Text) : Option Column :=
  all.find? fun c => c.header == h

/-- The headers from left to right. -/
def headers : List Text :=
  all.map header

end Column

end FeatureSheets
