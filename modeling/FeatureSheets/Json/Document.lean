import FeatureSheets.Json.Form
import FeatureSheets.Row

/-!
# JSON forms of documents

Keywords, scenarios, features and export rows as JSON.
-/

namespace FeatureSheets

namespace Json

/-- Reads a value of an enumeration by its name: a string, or an object with the name as its one
key and `null` below it. -/
def variant? {α : Type} (all : List α) (name : α → Text) : Json → Option α
  | .text s | .object [(some s, .null)] => all.find? fun a => name a == s
  | _ => none

end Json

open Json

instance : JsonForm Keyword where
  toJson k := .text k.word
  ofJson? := variant? Keyword.all Keyword.word

instance : JsonForm Scenario where
  toJson s := .record [
    ("name".toList, toJson s.name),
    ("steps".toList, toJson s.steps),
    ("examples".toList, toJson s.examples),
    ("has_examples".toList, toJson s.hasExamples)]
  ofJson? v := do
    let [name, steps, examples, hasExamples] ←
      v.fields? ["name".toList, "steps".toList, "examples".toList, "has_examples".toList] | none
    return {
      name := ← required? Text name
      steps := ← required? (List Text) steps
      examples := ← required? Entries examples
      hasExamples := ← required? Bool hasExamples }

instance : JsonForm Feature where
  toJson f := .record [
    ("feature_name".toList, toJson f.title),
    ("scenarios".toList, toJson f.scenarios)]
  ofJson? v := do
    let [title, scenarios] ← v.fields? ["feature_name".toList, "scenarios".toList] | none
    return {
      title := ← required? Text title
      scenarios := ← required? (List Scenario) scenarios }

instance : JsonForm ExportRow where
  toJson r := .record ([
    ("Feature".toList, toJson r.feature),
    ("Scenario".toList, toJson r.scenario),
    ("Steps".toList, toJson r.steps)] ++
    optionalMember "Parameters".toList r.parameters ++ [
    ("SheetName".toList, toJson r.sheetName)])
  ofJson? v := do
    let [feature, scenario, steps, parameters, sheetName] ←
      v.fields? ["Feature".toList, "Scenario".toList, "Steps".toList, "Parameters".toList,
        "SheetName".toList] | none
    return {
      feature := ← required? Text feature
      scenario := ← required? Text scenario
      steps := ← required? Text steps
      parameters := ← default? none parameters
      sheetName := ← required? Text sheetName }

end FeatureSheets
