import FeatureSheets.Config
import FeatureSheets.Sheet.Basic
import FeatureSheets.Time.Timestamp

/-!
# Manifests

The record that an export leaves beside its files: what was written, from where, and when.
-/

namespace FeatureSheets

/-- What a manifest says about one sheet. -/
structure ManifestEntry where
  /-- The name of the sheet. -/
  name : Text
  /-- The file that holds the sheet. -/
  file : Path
  /-- The number of its steps. -/
  steps : UInt64
  deriving DecidableEq

/-- The entry of a sheet that is stored in `file`. -/
def ManifestEntry.ofSheet (file : Path) (s : Sheet) : ManifestEntry :=
  ⟨s.name, file, .ofNat s.stepCount⟩

/-- The record of an export. -/
structure Manifest where
  /-- When the export was complete. -/
  generatedAt : Timestamp
  /-- The document that the sheets come from. -/
  source : Option Path
  /-- The title of the document. -/
  feature : Text
  /-- How the sheets are stored. -/
  format : OutputFormat
  /-- One entry per sheet, in order. -/
  sheets : List ManifestEntry
  deriving DecidableEq

/-- The number of steps on all sheets. -/
def Manifest.totalSteps (m : Manifest) : UInt64 :=
  m.sheets.foldl (fun n s => n + s.steps) 0

end FeatureSheets
