import FeatureSheets.Conversion
import FeatureSheets.Json.Document

/-!
# JSON forms of sheets

Sheets, the configuration they are built with, and whole conversions as JSON.
-/

namespace FeatureSheets

open Json

instance : JsonForm Sheet where
  toJson s := .record [
    ("name".toList, toJson s.name),
    ("rows".toList, toJson s.rows)]
  ofJson? v := do
    let [name, rows] ← v.fields? ["name".toList, "rows".toList] | none
    return {
      name := ← required? Text name
      rows := ← required? (List (List Text)) rows }

/-- Every field of a configuration that is missing takes its standard value. -/
instance : JsonForm SheetConfig where
  toJson c := .record [
    ("subject".toList, toJson c.subject),
    ("test_type".toList, toJson c.testType),
    ("status".toList, toJson c.status),
    ("designer".toList, toJson c.designer),
    ("max_sheet_name_len".toList, toJson c.maxSheetNameLen)]
  ofJson? v := do
    let [subject, testType, status, designer, maxSheetNameLen] ←
      v.fields? ["subject".toList, "test_type".toList, "status".toList, "designer".toList,
        "max_sheet_name_len".toList] | none
    let standard := SheetConfig.standard
    return {
      subject := ← default? standard.subject subject
      testType := ← default? standard.testType testType
      status := ← default? standard.status status
      designer := ← default? standard.designer designer
      maxSheetNameLen := ← default? standard.maxSheetNameLen maxSheetNameLen }

instance : JsonForm Conversion where
  toJson c := .record [
    ("feature_name".toList, toJson c.featureName),
    ("rows".toList, toJson c.rows),
    ("sheets".toList, toJson c.sheets)]
  ofJson? v := do
    let [featureName, rows, sheets] ←
      v.fields? ["feature_name".toList, "rows".toList, "sheets".toList] | none
    return {
      featureName := ← required? Text featureName
      rows := ← required? (List ExportRow) rows
      sheets := ← required? (List Sheet) sheets }

end FeatureSheets
