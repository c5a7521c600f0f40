import FeatureSheets.Discovery.Basic
import FeatureSheets.Export.Manifest
import FeatureSheets.Json.Document

/-!
# JSON forms of scans, batches and manifests

Everything that names files: paths, scans, batch files and the manifests of exports.
-/

namespace FeatureSheets

open Json

instance : JsonForm Path where
  toJson p := .text p.text
  ofJson?
    | .text s => some ⟨s⟩
    | _ => none

instance : JsonForm OutputFormat where
  toJson f := .text f.name
  ofJson? := variant? [.csv, .json] OutputFormat.name

/-- A moment is stored as its written form. -/
instance : JsonForm Timestamp where
  toJson t := .text t.write
  ofJson?
    | .text s => Timestamp.read? s
    | _ => none

instance : JsonForm FeatureFile where
  toJson f := .record [
    ("path".toList, toJson f.path),
    ("stem".toList, toJson f.stem),
    ("relative".toList, toJson f.relative)]
  ofJson? v := do
    let [path, stem, relative] ←
      v.fields? ["path".toList, "stem".toList, "relative".toList] | none
    return {
      path := ← required? Path path
      stem := ← required? Text stem
      relative := ← required? Path relative }

instance : JsonForm Discovery where
  toJson d := .record [
    ("roots".toList, toJson d.roots),
    ("features".toList, toJson d.features),
    ("skipped".toList, toJson d.skipped)]
  ofJson? v := do
    let [roots, features, skipped] ←
      v.fields? ["roots".toList, "features".toList, "skipped".toList] | none
    return {
      roots := ← required? (List Path) roots
      features := ← required? (List FeatureFile) features
      skipped := ← required? UInt64 skipped }

instance : JsonForm Batch where
  toJson b := .record ([
    ("roots".toList, toJson b.roots),
    ("output_dir".toList, toJson b.outputDir)] ++
    optionalMember "config".toList b.config ++ [
    ("format".toList, toJson b.format)])
  ofJson? v := do
    let [roots, outputDir, config, format] ←
      v.fields? ["roots".toList, "output_dir".toList, "config".toList, "format".toList] | none
    return {
      roots := ← required? (List Path) roots
      outputDir := ← required? Path outputDir
      config := ← default? none config
      format := ← default? .csv format }

instance : JsonForm ManifestEntry where
  toJson e := .record [
    ("name".toList, toJson e.name),
    ("file".toList, toJson e.file),
    ("steps".toList, toJson e.steps)]
  ofJson? v := do
    let [name, file, steps] ← v.fields? ["name".toList, "file".toList, "steps".toList] | none
    return {
      name := ← required? Text name
      file := ← required? Path file
      steps := ← required? UInt64 steps }

instance : JsonForm Manifest where
  toJson m := .record ([
    ("generated_at".toList, toJson m.generatedAt)] ++
    optionalMember "source".toList m.source ++ [
    ("feature".toList, toJson m.feature),
    ("format".toList, toJson m.format),
    ("sheets".toList, toJson m.sheets)])
  ofJson? v := do
    let [generatedAt, source, feature, format, sheets] ←
      v.fields? ["generated_at".toList, "source".toList, "feature".toList, "format".toList,
        "sheets".toList] | none
    return {
      generatedAt := ← required? Timestamp generatedAt
      source := ← default? none source
      feature := ← required? Text feature
      format := ← required? OutputFormat format
      sheets := ← required? (List ManifestEntry) sheets }

end FeatureSheets
